import TokenGrammar.Grammar.Basic

/-!
# Workshops

Several builders at work side by side. Each gets a number of its own, so that a rule of one is
foreign to all others, and is used up when its grammar is built.
-/

namespace TokenGrammar

universe u

variable {β : Nat → Type u}

/-- The builders in the order of their making; nothing stands for one that is used up. -/
structure Workshop (β : Nat → Type u) where
  builders : List (Option (GrammarBuilder β))

inductive WorkshopError where
  | grammar (error : GrammarError)
  | consumed
deriving DecidableEq, Repr

namespace Workshop

def empty : Workshop β := ⟨[]⟩

/-- Starts a builder. Their numbers count up from one, since zero belongs to the empty grammar, and
start over after the largest word. -/
def newBuilder (workshop : Workshop β) : Nat × Workshop β :=
  let owner := UInt32.ofNat (workshop.builders.length + 1)
  (workshop.builders.length, ⟨workshop.builders ++ [some (GrammarBuilder.new owner)]⟩)

def builder? (workshop : Workshop β) (index : Nat) : Option (GrammarBuilder β) :=
  workshop.builders[index]?.join

def replace (workshop : Workshop β) (index : Nat) (builder? : Option (GrammarBuilder β)) :
    Workshop β :=
  ⟨workshop.builders.set index builder?⟩

def declare (workshop : Workshop β) (index : Nat) (name : String) (output : Nat := 0) :
    Except WorkshopError (Rule × Workshop β) :=
  match workshop.builder? index with
  | none => .error .consumed
  | some builder =>
    let (rule, builder) := builder.declare name output
    .ok (rule, workshop.replace index (some builder))

def bind (workshop : Workshop β) (index : Nat) (rule : Rule) (body : β rule.output) :
    Except WorkshopError (Workshop β) :=
  match workshop.builder? index with
  | none => .error .consumed
  | some builder =>
    match builder.bind rule body with
    | .error error => .error (.grammar error)
    | .ok builder => .ok (workshop.replace index (some builder))

def define (workshop : Workshop β) (index : Nat) (name : String) (erased : Erased β) :
    Except WorkshopError (Rule × Workshop β) :=
  match workshop.builder? index with
  | none => .error .consumed
  | some builder =>
    match builder.define name erased with
    | .error error => .error (.grammar error)
    | .ok (rule, builder) => .ok (rule, workshop.replace index (some builder))

/-- Builds a grammar. The builder is used up even if that fails. -/
def build (workshop : Workshop β) (index : Nat) :
    Except WorkshopError (Grammar β) × Workshop β :=
  match workshop.builder? index with
  | none => (.error .consumed, workshop)
  | some builder =>
    (builder.build.mapError WorkshopError.grammar, workshop.replace index none)

end Workshop

end TokenGrammar
