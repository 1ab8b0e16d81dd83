import TokenGrammar.Grammar.Basic
import TokenGrammar.Parser.Attempt

/-!
# Parsers

A parser describes what to look for in a sequence of tokens. Alternatives are ordered: the second is
tried only where the first fails. What rules give is of a type in the family `ρ`, by the number that
their handle carries.
-/

namespace TokenGrammar

/-- A token of a kind, with one of the given texts if there is a list of them. -/
structure Primitive (α : Type) where
  kind : Kind α
  texts? : Option (List String)

namespace Primitive

variable {α : Type}

def accepts (primitive : Primitive α) (token : Token) : Bool :=
  primitive.kind.accepts token && primitive.texts?.all (·.contains token.text)

def decode (primitive : Primitive α) (token : Token) : Option α :=
  if primitive.accepts token then primitive.kind.decode token else none

def describe (primitive : Primitive α) : String :=
  let texts := match primitive.texts? with
    | none => "None"
    | some texts => "Some(" ++ Text.quotedList texts ++ ")"
  "Primitive \x7b tag: " ++ Text.quoted primitive.kind.tag ++ ", texts: " ++ texts ++ " \x7d"

end Primitive

/-- What a custom parser can see: the tokens before the end bound, the bound, the number of rules of
the grammar, and where skipping from a cursor leads. -/
structure Surroundings where
  tokenAt : Nat → Option Token
  finish : Nat
  ruleCount : Nat
  skipFrom : Nat → Attempt Unit

inductive Parser (ρ : Nat → Type) : Type → Type 1 where
  | primitive {α : Type} (wanted : Primitive α) : Parser ρ α
  | seq {α β : Type} (first : Parser ρ α) (second : Parser ρ β) : Parser ρ (α × β)
  | thenIgnore {α β : Type} (first : Parser ρ α) (second : Parser ρ β) : Parser ρ α
  | ignoreThen {α β : Type} (first : Parser ρ α) (second : Parser ρ β) : Parser ρ β
  | alt {α : Type} (first second : Parser ρ α) : Parser ρ α
  | either {α β : Type} (first : Parser ρ α) (second : Parser ρ β) : Parser ρ (α ⊕ β)
  | many {α : Type} (item : Parser ρ α) : Parser ρ (List α)
  | many1 {α : Type} (item : Parser ρ α) : Parser ρ (List α)
  /-- The first parser, where the second does not match. -/
  | exclude {α β : Type} (inner : Parser ρ α) (excluded : Parser ρ β) : Parser ρ α
  | discard {α : Type} (inner : Parser ρ α) : Parser ρ Unit
  | optional {α : Type} (inner : Parser ρ α) : Parser ρ (Option α)
  | map {α β : Type} (f : α → β) (inner : Parser ρ α) : Parser ρ β
  | rule (handle : Rule) : Parser ρ (ρ handle.output)
  /-- The inner parser with nothing skipped. -/
  | unskipped {α : Type} (inner : Parser ρ α) : Parser ρ α
  | custom {α : Type} (act : Surroundings → Nat → Attempt α) : Parser ρ α

namespace Parser

variable {ρ : Nat → Type} {α : Type}

def token (kind : Kind α) : Parser ρ α := primitive ⟨kind, none⟩

def oneOf (kind : Kind α) (texts : List String) : Parser ρ α := primitive ⟨kind, some texts⟩

def size : {α : Type} → Parser ρ α → Nat
  | _, primitive _ => 1
  | _, seq first second => first.size + second.size + 1
  | _, thenIgnore first second => first.size + second.size + 1
  | _, ignoreThen first second => first.size + second.size + 1
  | _, alt first second => first.size + second.size + 1
  | _, either first second => first.size + second.size + 1
  | _, many item => item.size + 1
  | _, many1 item => item.size + 2
  | _, exclude inner excluded => inner.size + excluded.size + 1
  | _, discard inner => inner.size + 1
  | _, optional inner => inner.size + 1
  | _, map _ inner => inner.size + 1
  | _, rule _ => 1
  | _, unskipped inner => inner.size + 1
  | _, custom _ => 1

end Parser

/-- What a rule with the number of an output has for a body. -/
abbrev RuleBody (ρ : Nat → Type) (output : Nat) : Type 1 := Parser ρ (ρ output)

end TokenGrammar
