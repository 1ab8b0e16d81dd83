import TokenGrammar.Lexicon.Scan

/-!
# Traces

The events that scanning, matching and calculating report, in the order in which they happen.
-/

namespace TokenGrammar

inductive Event where
  | registered (tag pattern : String) (index : Nat)
  | scanning (size : Nat)
  | scanned (tokens : Nat)
  | grammarBuilt (rules : Nat)
  | enteredRule (name : String) (position : Nat)
  | leftRule (name : String) (matched : Bool) (position : Nat)
  | unknownRule (name : String)
  | tokenMatched (tag text : String) (position : Nat)
  | parseFailed (message : String)
  | parsing (size : Nat)
  | calculatorReady (definitions rules : Nat)
  | dialogueFinished (failures : Nat)
deriving DecidableEq, Repr

/-- A value together with the events on the way to it. -/
structure Traced (α : Type) where
  value : α
  events : List Event

namespace Traced

variable {α β : Type}

instance : Monad Traced where
  pure value := ⟨value, []⟩
  bind first next :=
    let second := next first.value
    ⟨second.value, first.events ++ second.events⟩

def emit (event : Event) : Traced Unit := ⟨(), [event]⟩

end Traced

namespace Lexicon

def tracedDefine {α : Type} (lexicon : Lexicon) (tag pattern : String)
    (read : String → Option α) (engine : Engine := .standard) :
    Traced (Except DefinitionError (Kind α × Lexicon)) := do
  let result := lexicon.define tag pattern read engine
  if let .ok (kind, _) := result then Traced.emit (.registered tag pattern kind.id.index)
  return result

def tracedScan (lexicon : Lexicon) (source : String) :
    Traced (Except ScanError TokenSequence) := do
  Traced.emit (.scanning source.utf8ByteSize)
  let result := lexicon.scan source
  if let .ok sequence := result then Traced.emit (.scanned sequence.size)
  return result

/-- Defines tokens in order, up to the first definition that is refused. -/
def tracedDefineAll {α : Type} (lexicon : Lexicon)
    (requests : List (String × String × (String → Option α))) (engine : Engine := .standard) :
    Traced (Except DefinitionError (List (Kind α) × Lexicon)) :=
  match requests with
  | [] => return .ok ([], lexicon)
  | (tag, pattern, read) :: rest => do
    match ← lexicon.tracedDefine tag pattern read engine with
    | .error error => return .error error
    | .ok (kind, lexicon) =>
      return (← lexicon.tracedDefineAll rest engine).map fun (kinds, lexicon) =>
        (kind :: kinds, lexicon)

end Lexicon

end TokenGrammar
