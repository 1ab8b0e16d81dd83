import TokenGrammar.Text.Quoted
import TokenGrammar.Word

/-!
# Grammars

Named rules with their bodies. A builder hands out a handle for every rule it declares, so that
bodies can mention rules that are bound later; it gives a grammar once every rule has a body. The
kind of body is left open. Bodies differ in type by what their rule gives; they are kept with the
number of that type, and found again only for a handle with the same number.
-/

namespace TokenGrammar

/-- A handle on a rule: which builder declared it, and as the how-manieth. The type of what the rule
gives is known by a number. -/
structure Rule where
  owner : UInt32
  id : Serial
  name : String
  output : Nat
deriving DecidableEq, Repr

namespace Rule

def index (rule : Rule) : Nat := rule.id.index

def describe (rule : Rule) : String := s!"Rule({rule.name} #{rule.index})"

end Rule

inductive GrammarError where
  | unboundRule (name : String)
  | alreadyBound (name : String)
  | foreignRule (name : String)
  | duplicateRule (name : String)
deriving DecidableEq, Repr

namespace GrammarError

def name : GrammarError → String
  | unboundRule name => name
  | alreadyBound name => name
  | foreignRule name => name
  | duplicateRule name => name

def message : GrammarError → String
  | unboundRule name => s!"rule `{name}` was declared but never bound"
  | alreadyBound name => s!"rule `{name}` is already bound"
  | foreignRule name => s!"rule `{name}` belongs to a different grammar"
  | duplicateRule name => s!"rule name `{name}` is declared more than once"

end GrammarError

universe u v

/-- A type stands for the family that has it for every number. -/
instance constantFamily : Coe (Type u) (Nat → Type u) := ⟨fun α _ => α⟩

variable {α : Type u} {β : Nat → Type u} {γ : Nat → Type v}

/-- A body with the number of its type. -/
structure Erased (β : Nat → Type u) where
  output : Nat
  body : β output

namespace Erased

instance : CoeHead α (Erased fun _ => α) := ⟨fun body => ⟨0, body⟩⟩

def downcast? (erased : Erased β) (output : Nat) : Option (β output) :=
  if h : erased.output = output then some (h ▸ erased.body) else none

def map (f : ∀ {output}, β output → γ output) (erased : Erased β) : Erased γ :=
  ⟨erased.output, f erased.body⟩

theorem downcast?_eq_some_iff {erased : Erased β} {output : Nat} {body : β output} :
    erased.downcast? output = some body ↔ erased = ⟨output, body⟩ := by
  obtain ⟨own, found⟩ := erased
  unfold downcast?
  by_cases heq : own = output
  · subst heq
    simp
  · simp [heq]

end Erased

structure BoundRule (β : Nat → Type u) where
  name : String
  erased : Erased β

structure Grammar (β : Nat → Type u) where
  owner : UInt32
  rules : List (BoundRule β)

namespace Grammar

/-- The grammar without rules belongs to no builder. -/
def empty : Grammar β := ⟨0, []⟩

def size (grammar : Grammar β) : Nat := grammar.rules.length

def isEmpty (grammar : Grammar β) : Bool := grammar.rules.isEmpty

def ruleNames (grammar : Grammar β) : List String := grammar.rules.map (·.name)

/-- Whether the rule was declared by the builder of the grammar. -/
def contains (grammar : Grammar β) (rule : Rule) : Bool :=
  rule.owner = grammar.owner && rule.index < grammar.size

def body? (grammar : Grammar β) (rule : Rule) : Option (β rule.output) :=
  if grammar.contains rule then
    grammar.rules[rule.index]?.bind (·.erased.downcast? rule.output)
  else none

theorem contains_iff {grammar : Grammar β} {rule : Rule} :
    grammar.contains rule = true ↔ rule.owner = grammar.owner ∧ rule.index < grammar.size := by
  simp [contains]

theorem body?_eq_some_iff {grammar : Grammar β} {rule : Rule} {body : β rule.output} :
    grammar.body? rule = some body ↔
      rule.owner = grammar.owner ∧
        ∃ name, grammar.rules[rule.index]? = some ⟨name, ⟨rule.output, body⟩⟩ := by
  unfold body?
  constructor
  · intro h
    split at h
    · next hcontains =>
      obtain ⟨⟨name, erased⟩, hrule, hbody⟩ := Option.bind_eq_some_iff.1 h
      obtain rfl := Erased.downcast?_eq_some_iff.1 hbody
      exact ⟨(contains_iff.1 hcontains).1, name, hrule⟩
    · cases h
  · rintro ⟨howner, name, hrule⟩
    have hlt : rule.index < grammar.size := (List.getElem?_eq_some_iff.1 hrule).1
    rw [if_pos (contains_iff.2 ⟨howner, hlt⟩), hrule]
    exact Erased.downcast?_eq_some_iff.2 rfl

theorem contains_of_body? {grammar : Grammar β} {rule : Rule} {body : β rule.output}
    (h : grammar.body? rule = some body) : grammar.contains rule = true := by
  obtain ⟨howner, _, hrule⟩ := body?_eq_some_iff.1 h
  exact contains_iff.2 ⟨howner, (List.getElem?_eq_some_iff.1 hrule).1⟩

def map (f : ∀ {output}, β output → γ output) (grammar : Grammar β) : Grammar γ :=
  ⟨grammar.owner, grammar.rules.map fun rule => ⟨rule.name, rule.erased.map f⟩⟩

def describe (grammar : Grammar β) : String :=
  "Grammar \x7b rules: " ++ Text.quotedList grammar.ruleNames ++ " \x7d"

end Grammar

/-- A rule that has been declared, and its body once it is bound. -/
structure Slot (β : Nat → Type u) where
  name : String
  body? : Option (Erased β)

structure GrammarBuilder (β : Nat → Type u) where
  owner : UInt32
  slots : List (Slot β)
  /-- The rule that was last declared under a name, newest first. -/
  names : List (String × Serial)
  /-- The first name that was declared again. -/
  duplicate? : Option String

namespace GrammarBuilder

/-- Builders that are to tell their rules apart need different numbers, none of them zero. -/
def new (owner : UInt32) : GrammarBuilder β := ⟨owner, [], [], none⟩

def declare (builder : GrammarBuilder β) (name : String) (output : Nat := 0) :
    Rule × GrammarBuilder β :=
  let id := Serial.ofIndex builder.slots.length
  let repeats := (builder.names.lookup name).isSome
  (⟨builder.owner, id, name, output⟩,
    { builder with
      slots := builder.slots ++ [⟨name, none⟩]
      names := (name, id) :: builder.names
      duplicate? := if repeats && builder.duplicate?.isNone then some name
        else builder.duplicate? })

def bind (builder : GrammarBuilder β) (rule : Rule) (body : β rule.output) :
    Except GrammarError (GrammarBuilder β) :=
  if rule.owner = builder.owner then
    match builder.slots[rule.index]? with
    | some ⟨name, none⟩ =>
      .ok { builder with
        slots := builder.slots.set rule.index ⟨name, some ⟨rule.output, body⟩⟩ }
    | some ⟨_, some _⟩ => .error (.alreadyBound rule.name)
    | none => .error (.foreignRule rule.name)
  else .error (.foreignRule rule.name)

def define (builder : GrammarBuilder β) (name : String) (erased : Erased β) :
    Except GrammarError (Rule × GrammarBuilder β) :=
  let declared := (builder.declare name erased.output).2
  let rule := (builder.declare name erased.output).1
  (declared.bind rule erased.body).map fun bound => (rule, bound)

def declareAll (builder : GrammarBuilder β) : List String → List Rule × GrammarBuilder β
  | [] => ([], builder)
  | name :: rest =>
    let (rule, builder) := builder.declare name
    let (rules, builder) := builder.declareAll rest
    (rule :: rules, builder)

/-- Binds rules in order, up to the first that cannot be bound. -/
def bindAll (builder : GrammarBuilder fun _ => α) :
    List (Rule × α) → Except GrammarError (GrammarBuilder fun _ => α)
  | [] => .ok builder
  | (rule, body) :: rest =>
    match builder.bind rule body with
    | .ok builder => builder.bindAll rest
    | .error error => .error error

def boundRules : List (Slot β) → Except GrammarError (List (BoundRule β))
  | [] => .ok []
  | ⟨name, none⟩ :: _ => .error (.unboundRule name)
  | ⟨name, some erased⟩ :: rest =>
    match boundRules rest with
    | .ok rules => .ok (⟨name, erased⟩ :: rules)
    | .error error => .error error

def build (builder : GrammarBuilder β) : Except GrammarError (Grammar β) :=
  match builder.duplicate? with
  | some name => .error (.duplicateRule name)
  | none =>
    match boundRules builder.slots with
    | .ok rules => .ok ⟨builder.owner, rules⟩
    | .error error => .error error

end GrammarBuilder

end TokenGrammar
