import TokenGrammar.Proofs.Calculator.Correct
import TokenGrammar.Proofs.Parser.Ranking

/-!
# Matching without left recursion

In a session whose grammar has a ranking nothing runs out of fuel: the allowance, which the grammar,
the parsers and the number of tokens fix beforehand, is enough to match a parser from anywhere and
to match all tokens. The grammar of the calculator has a ranking.
-/

namespace TokenGrammar

theorem Attempt.andThen_ne_exhausted {α β : Type} {attempt : Attempt α}
    {onMatch : α → Nat → Attempt β} (hattempt : ∀ progress, (attempt progress).1 ≠ .exhausted)
    (hmatch : ∀ value next progress, (onMatch value next progress).1 ≠ .exhausted)
    (progress : Progress) : (attempt.andThen onMatch progress).1 ≠ .exhausted := by
  unfold andThen resume
  split
  · exact hmatch _ _ _
  · simp [failed]
  · next after heq =>
    have hanswer := hattempt progress
    rw [heq] at hanswer
    exact absurd rfl hanswer

/-! ### Rankings by position -/

/-- A ranking that goes by the positions of the rules, and counts on no rule to take a token. -/
def Grammar.Ranking.ofPositions {ρ : Nat → Type} {grammar : Grammar (RuleBody ρ)} (rank : Nat → Nat)
    (hrank : ∀ rule ∈ grammar.rules.zipIdx, ∀ entered ∈ rule.1.erased.body.heads fun _ => false,
      rank entered.index < rank rule.2) : grammar.Ranking where
  rank handle := rank handle.index
  sure _ := false
  consumes_body := fun _ hsure => nomatch hsure
  rank_lt := by
    intro handle body hbody entered hentered _
    obtain ⟨-, name, hrule⟩ := body?_eq_some_iff.1 hbody
    exact hrank (_, handle.index) (List.mem_zipIdx_iff_getElem?.2 hrule) entered hentered

/-- Expressions start with atoms, and atoms with numbers or a parenthesis. -/
def Calculator.ranking : Calculator.standard.grammar.Ranking :=
  .ofPositions (fun position => [2, 0, 1].getD position 0) (by decide)

/-! ### Sessions -/

namespace Session

variable {ρ : Nat → Type} {α : Type} {session : Session ρ} {parser : Parser ρ α}
  {skip? : Option (Parser ρ Unit)}

section Ranked

variable (ranking : session.grammar.Ranking) (hgrammar : session.grammar.IsLibrary)
  (hparser : parser.IsLibrary) (hskip : ∀ skip, skip? = some skip → skip.IsLibrary)

include ranking hgrammar hparser hskip

theorem run_ne_exhausted_of_ranking (start finish : Nat) (progress : Progress) :
    (parser.run (session.allowance parser skip?)
      (Setting.new session.tokens finish session.grammar skip?) start progress).1 ≠
        .exhausted := by
  let stage : Parser.Stage ρ := ⟨true, ⟨α, parser⟩, start⟩
  have hhalts : stage.Halts (Setting.new session.tokens finish session.grammar skip?) :=
    Parser.Stage.halts ranking ⟨hgrammar, hskip⟩ stage hparser
  exact run_allowance_ne_exhausted hgrammar hparser hskip hhalts progress

theorem skipFrom_ne_exhausted_of_ranking (finish cursor : Nat) (progress : Progress) :
    (Parser.skipFrom (session.allowance parser skip?)
      (Setting.new session.tokens finish session.grammar skip?) cursor progress).1 ≠
        .exhausted := by
  set setting := Setting.new session.tokens finish session.grammar skip?
  have hsetting : setting.IsLibrary := ⟨hgrammar, hskip⟩
  have hsettles : Attempt.Settles fun fuel => Parser.skipFrom fuel setting cursor := by
    apply Parser.skipFrom_settles hsetting
    intro skip reached hsome _
    let stage : Parser.Stage ρ := ⟨false, ⟨Unit, skip⟩, reached⟩
    have hhalts : stage.Halts setting :=
      Parser.Stage.halts ranking hsetting stage (hskip skip hsome)
    exact hhalts
  obtain ⟨outcome, reach, least, hne, hgives⟩ := hsettles
  have hanswer : (Parser.skipFrom least setting cursor progress).1 ≠ .exhausted := by
    rw [(hgives least le_rfl progress).1]
    exact hne
  have hrelated : (Correspondence.within cursor (max cursor setting.finish)).Related cursor cursor
      (Parser.skipFrom least setting cursor)
      (Parser.skipFrom (session.allowance parser skip?) setting cursor) :=
    skipFrom_related_allowance hgrammar hparser hskip least rfl
  exact (hrelated progress progress rfl).ne_exhausted hanswer

end Ranked

/-- **No left recursion, no endless match.** Let a grammar have a ranking. For a library parser and
skip parser there is a bound for every number of tokens, namely the allowance, within which a run
has its result from every start and up to every end bound, and within which an attempt at all tokens
has its verdict. The grammar of the calculator has a ranking. -/
theorem returns_of_ranking (grammar : Grammar (RuleBody ρ)) (ranking : grammar.Ranking)
    (parser : Parser ρ α) (skip? : Option (Parser ρ Unit)) (hgrammar : grammar.IsLibrary)
    (hparser : parser.IsLibrary) (hskip : ∀ skip, skip? = some skip → skip.IsLibrary) :
    (∃ bound : Nat → Nat, ∀ tokens : TokenSequence,
      let session : Session ρ := ⟨grammar, tokens⟩
      let fuel := bound tokens.size
      session.allowance parser skip? = fuel ∧
      (∀ start finish,
        let result := parser.run fuel (Setting.new tokens finish grammar skip?) start ⟨start, []⟩
        result.1 ≠ .exhausted ∧
          (session.run parser start finish skip?).value = Match.ofOutcome start result) ∧
      let setting := Setting.new tokens tokens.size grammar skip?
      let attempt := (parser.run fuel setting 0).andThen fun value next =>
        (Parser.skipFrom fuel setting next).map fun _ => value
      (attempt ⟨0, []⟩).1 ≠ .exhausted ∧
        (session.parseAll parser skip?).value = session.verdict (attempt ⟨0, []⟩)) ∧
    ∃ calculator, Calculator.new = .ok calculator ∧ calculator.grammar.IsLibrary ∧
      calculator.skip.IsLibrary ∧ Nonempty calculator.grammar.Ranking := by
  constructor
  · let bodies := grammar.rules.foldr (fun rule total => rule.erased.body.size + total) 0
    let parts := parser.size + (skip?.map Parser.size).getD 0 + bodies + 1
    refine ⟨fun count => 2 * (grammar.size + 2) * parts * (count + parts + 2), fun tokens => ?_⟩
    intro session fuel
    have hallowance : session.allowance parser skip? = fuel := by rfl
    rw [← hallowance]
    refine ⟨rfl, ?_, ?_, parseAll_value session parser skip?⟩
    · intro start finish result
      exact ⟨run_ne_exhausted_of_ranking ranking hgrammar hparser hskip start finish _, rfl⟩
    · apply Attempt.andThen_ne_exhausted
      · exact run_ne_exhausted_of_ranking ranking hgrammar hparser hskip 0 tokens.size
      · intro value next
        apply Attempt.andThen_ne_exhausted
        · exact skipFrom_ne_exhausted_of_ranking ranking hgrammar hparser hskip tokens.size next
        · simp [Attempt.matched]
  · refine ⟨Calculator.standard, Calculator.new_eq_standard, ?_, ?_, ⟨Calculator.ranking⟩⟩
    · exact Calculator.isLibrary_grammar ⟨#[], 0⟩
    · exact Calculator.isLibrary_skip _ rfl

/-- A rule that calls itself behind a letter, and a skip parser that is a rule and can match
nothing, under a repetition. -/
theorem returns_with_nullable_skip_rule :
    let letter : Kind Unit := ⟨0, "letter", fun _ => some ()⟩
    let blank : Kind Unit := ⟨1, "blank", fun _ => some ()⟩
    let gap : Rule := ⟨1, 0, "gap", 0⟩
    let word : Rule := ⟨1, 1, "word", 0⟩
    let grammar : Grammar (RuleBody Unit) := ⟨1, [⟨"gap", 0, .discard (.many (.token blank))⟩,
      ⟨"word", 0, .ignoreThen (.rule gap)
        (.discard (.optional (.ignoreThen (.token letter) (.rule word))))⟩]⟩
    let words : Parser Unit (List Unit) := .many (.rule word)
    let skip : Parser Unit Unit := .rule gap
    Nonempty grammar.Ranking ∧ ∀ tokens start finish,
      (words.run (allowance ⟨grammar, tokens⟩ words (some skip))
        (Setting.new tokens finish grammar (some skip)) start ⟨start, []⟩).1 ≠ .exhausted := by
  intro letter blank gap word grammar words skip
  have hgrammar : grammar.IsLibrary := by
    intro rule hrule
    simp only [grammar, List.mem_cons, List.not_mem_nil, or_false] at hrule
    rcases hrule with rfl | rfl
    · trivial
    · exact ⟨trivial, trivial, trivial⟩
  have hskip : skip.IsLibrary := trivial
  let ranking : grammar.Ranking := .ofPositions id (by decide)
  obtain ⟨⟨bound, hbound⟩, -⟩ := returns_of_ranking grammar ranking words (some skip) hgrammar
    trivial fun _ => hskip.of_some_eq
  refine ⟨⟨ranking⟩, ?_⟩
  intro tokens start finish
  obtain ⟨hallowance, hruns, -⟩ := hbound tokens
  rw [hallowance]
  exact (hruns start finish).1

end Session

end TokenGrammar
