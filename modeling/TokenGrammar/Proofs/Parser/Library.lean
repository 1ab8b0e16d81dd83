import TokenGrammar.Session

/-!
# Library parsers

A library parser is put together from primitives and combinators alone, without steps of its own
making. What such a parser does at a cursor is settled by the parsers it calls there, and those are
all among its parts, or among the parts of the bodies of the grammar.
-/

namespace TokenGrammar

namespace Parser

variable {ρ : Nat → Type}

/-- Put together from primitives, combinators and rules. -/
def IsLibrary : {α : Type} → Parser ρ α → Prop
  | _, primitive _ => True
  | _, seq first second => first.IsLibrary ∧ second.IsLibrary
  | _, thenIgnore first second => first.IsLibrary ∧ second.IsLibrary
  | _, ignoreThen first second => first.IsLibrary ∧ second.IsLibrary
  | _, alt first second => first.IsLibrary ∧ second.IsLibrary
  | _, either first second => first.IsLibrary ∧ second.IsLibrary
  | _, many item => item.IsLibrary
  | _, many1 item => item.IsLibrary
  | _, exclude inner excluded => inner.IsLibrary ∧ excluded.IsLibrary
  | _, discard inner => inner.IsLibrary
  | _, optional inner => inner.IsLibrary
  | _, map _ inner => inner.IsLibrary
  | _, rule _ => True
  | _, unskipped _ => False
  | _, custom _ => False

theorem IsLibrary.of_some_eq {α : Type} {parser other : Parser ρ α} (hparser : parser.IsLibrary)
    (heq : some parser = some other) : other.IsLibrary := by
  cases heq
  exact hparser

/-- The parsers that a library parser may try on its way. Repetition goes on as itself, and a rule
as its body. -/
inductive Calls (grammar : Grammar (RuleBody ρ)) :
    {α β : Type} → Parser ρ α → Parser ρ β → Prop where
  | seqFirst {α β : Type} (first : Parser ρ α) (second : Parser ρ β) :
      Calls grammar (seq first second) first
  | seqSecond {α β : Type} (first : Parser ρ α) (second : Parser ρ β) :
      Calls grammar (seq first second) second
  | thenIgnoreFirst {α β : Type} (first : Parser ρ α) (second : Parser ρ β) :
      Calls grammar (thenIgnore first second) first
  | thenIgnoreSecond {α β : Type} (first : Parser ρ α) (second : Parser ρ β) :
      Calls grammar (thenIgnore first second) second
  | ignoreThenFirst {α β : Type} (first : Parser ρ α) (second : Parser ρ β) :
      Calls grammar (ignoreThen first second) first
  | ignoreThenSecond {α β : Type} (first : Parser ρ α) (second : Parser ρ β) :
      Calls grammar (ignoreThen first second) second
  | altFirst {α : Type} (first second : Parser ρ α) : Calls grammar (alt first second) first
  | altSecond {α : Type} (first second : Parser ρ α) : Calls grammar (alt first second) second
  | eitherFirst {α β : Type} (first : Parser ρ α) (second : Parser ρ β) :
      Calls grammar (either first second) first
  | eitherSecond {α β : Type} (first : Parser ρ α) (second : Parser ρ β) :
      Calls grammar (either first second) second
  | manyItem {α : Type} (item : Parser ρ α) : Calls grammar (many item) item
  | manyRest {α : Type} (item : Parser ρ α) : Calls grammar (many item) (many item)
  | many1 {α : Type} (item : Parser ρ α) : Calls grammar (many1 item) (many item)
  | excludeInner {α β : Type} (inner : Parser ρ α) (excluded : Parser ρ β) :
      Calls grammar (exclude inner excluded) inner
  | excludeExcluded {α β : Type} (inner : Parser ρ α) (excluded : Parser ρ β) :
      Calls grammar (exclude inner excluded) excluded
  | discard {α : Type} (inner : Parser ρ α) : Calls grammar (discard inner) inner
  | optional {α : Type} (inner : Parser ρ α) : Calls grammar (optional inner) inner
  | map {α β : Type} (f : α → β) (inner : Parser ρ α) : Calls grammar (map f inner) inner
  | rule {handle : Rule} {body : Parser ρ (ρ handle.output)}
      (hbody : grammar.body? handle = some body) :
      Calls grammar (rule handle) body

end Parser

namespace Grammar

universe u

variable {β : Nat → Type u} {ρ : Nat → Type}

theorem exists_mem_rules_of_body? {grammar : Grammar β} {handle : Rule} {body : β handle.output}
    (h : grammar.body? handle = some body) :
    ∃ rule ∈ grammar.rules, rule.erased = ⟨handle.output, body⟩ := by
  obtain ⟨-, name, hrule⟩ := body?_eq_some_iff.1 h
  exact ⟨_, List.mem_of_getElem? hrule, rfl⟩

def IsLibrary (grammar : Grammar (RuleBody ρ)) : Prop :=
  ∀ rule ∈ grammar.rules, rule.erased.body.IsLibrary

theorem IsLibrary.body {grammar : Grammar (RuleBody ρ)}
    (hgrammar : grammar.IsLibrary) {handle : Rule} {body : Parser ρ (ρ handle.output)}
    (hbody : grammar.body? handle = some body) : body.IsLibrary := by
  obtain ⟨rule, hmem, herased⟩ := exists_mem_rules_of_body? hbody
  have hlibrary := hgrammar rule hmem
  rw [herased] at hlibrary
  exact hlibrary

end Grammar

namespace Parser

variable {ρ : Nat → Type} {grammar : Grammar (RuleBody ρ)}

theorem Calls.isLibrary (hgrammar : grammar.IsLibrary) {α β : Type} {parser : Parser ρ α}
    {called : Parser ρ β} (hcalls : Calls grammar parser called)
    (hparser : parser.IsLibrary) : called.IsLibrary := by
  cases hcalls with
  | seqFirst => exact hparser.1
  | seqSecond => exact hparser.2
  | thenIgnoreFirst => exact hparser.1
  | thenIgnoreSecond => exact hparser.2
  | ignoreThenFirst => exact hparser.1
  | ignoreThenSecond => exact hparser.2
  | altFirst => exact hparser.1
  | altSecond => exact hparser.2
  | eitherFirst => exact hparser.1
  | eitherSecond => exact hparser.2
  | manyItem => exact hparser
  | manyRest => exact hparser
  | many1 => exact hparser
  | excludeInner => exact hparser.1
  | excludeExcluded => exact hparser.2
  | discard => exact hparser
  | optional => exact hparser
  | map => exact hparser
  | rule hbody => exact hgrammar.body hbody

end Parser

end TokenGrammar
