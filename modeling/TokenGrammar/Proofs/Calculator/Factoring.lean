import TokenGrammar.Proofs.Calculator.Correct
import TokenGrammar.Proofs.Grammar.Building
import TokenGrammar.Proofs.Parser.Alike

/-!
# Left factoring in the calculator

The calculator reads an atom and then perhaps an operator and an expression. Its rule could also try
the whole of a binary expression first and go back to a single atom where that fails. The two rules
find the same matches and the same errors.
-/

namespace TokenGrammar

namespace Calculator

namespace Vocabulary

def combine : (Expr × Operator) × Expr → Expr
  | ((left, operator), right) => .binary operator left right

variable (vocabulary : Vocabulary)

def binaryBody (atom expr : Rule) : Parser Expr Expr :=
  .map combine (.seq (.seq (.rule atom) (.token vocabulary.operator)) (.rule expr))

/-- The calculator's grammar with an expression as a binary expression or else an atom. Binary
expressions are spelled out in place, or have a rule of their own. -/
def unfactored (owner : UInt32) (named : Bool) :
    Except GrammarError (Rule × Grammar (RuleBody Expr)) := do
  let (expr, builder) := (GrammarBuilder.new owner).declare "expr"
  let (number, builder) ← builder.define "number" vocabulary.numberBody
  let (atom, builder) ← builder.define "atom" (vocabulary.atomBody number expr)
  let (binary, builder) ←
    if named then do
      let (binary, builder) ← builder.define "binary" (vocabulary.binaryBody atom expr)
      pure (.rule binary, builder)
    else pure (vocabulary.binaryBody atom expr, builder)
  let builder ← builder.bind expr (.alt binary (.rule atom))
  let grammar ← builder.build
  return (expr, grammar)

/-- The rules of a grammar for the calculator in which expressions are not factored. -/
structure Unfactored (grammar : Grammar (RuleBody Expr)) (number atom expr : Rule)
    (binary : Parser Expr Expr) : Prop where
  isLibrary : grammar.IsLibrary
  body_number : grammar.body? number = some vocabulary.numberBody
  body_atom : grammar.body? atom = some (vocabulary.atomBody number expr)
  body_expr : grammar.body? expr = some (.alt binary (.rule atom))
  binary_eq : binary = vocabulary.binaryBody atom expr ∨
    ∃ handle, binary = .rule handle ∧
      grammar.body? handle = some (vocabulary.binaryBody atom expr)

theorem exists_unfactored (owner : UInt32) (named : Bool) :
    ∃ expr grammar, vocabulary.unfactored owner named = .ok (expr, grammar) ∧
      ∃ number atom binary, vocabulary.Unfactored grammar number atom expr binary := by
  let number : Rule := ⟨owner, 1, "number", 0⟩
  let atom : Rule := ⟨owner, 2, "atom", 0⟩
  let expr : Rule := ⟨owner, 0, "expr", 0⟩
  let shared : List (BoundRule (RuleBody Expr)) :=
    [⟨"number", 0, vocabulary.numberBody⟩, ⟨"atom", 0, vocabulary.atomBody number expr⟩]
  have hbinary : (vocabulary.binaryBody atom expr).IsLibrary := ⟨⟨trivial, trivial⟩, trivial⟩
  have hshared : ∀ rule ∈ shared, rule.erased.body.IsLibrary := by
    refine List.forall_mem_cons.2 ⟨⟨trivial, trivial⟩, List.forall_mem_singleton.2 ?_⟩
    exact ⟨trivial, ⟨trivial, trivial⟩, trivial⟩
  have hfits : ∀ {n : Nat}, n ≤ 3 → n ≤ Word.limit := fun h => Nat.le_trans h (by decide)
  cases named with
  | false =>
    let grammar : Grammar (RuleBody Expr) :=
      ⟨owner, ⟨"expr", 0, .alt (vocabulary.binaryBody atom expr) (.rule atom)⟩ :: shared⟩
    refine ⟨expr, grammar, ?_, number, atom, vocabulary.binaryBody atom expr, ?_⟩
    · simp (disch := (refine hfits ?_; simp [GrammarBuilder.declare])) only [unfactored,
        GrammarBuilder.define_eq, GrammarBuilder.declare, GrammarBuilder.new, GrammarBuilder.bind,
        bind, Except.bind, pure, Except.pure, if_true]
      rfl
    · refine ⟨?_, ?_, ?_, ?_, Or.inl rfl⟩
      · exact List.forall_mem_cons.2 ⟨⟨hbinary, trivial⟩, hshared⟩
      · exact Grammar.body?_eq_some_iff.2 ⟨rfl, "number", rfl⟩
      · exact Grammar.body?_eq_some_iff.2 ⟨rfl, "atom", rfl⟩
      · exact Grammar.body?_eq_some_iff.2 ⟨rfl, "expr", rfl⟩
  | true =>
    let binary : Rule := ⟨owner, 3, "binary", 0⟩
    let grammar : Grammar (RuleBody Expr) :=
      ⟨owner, ⟨"expr", 0, .alt (.rule binary) (.rule atom)⟩ ::
        (shared ++ [⟨"binary", 0, vocabulary.binaryBody atom expr⟩])⟩
    refine ⟨expr, grammar, ?_, number, atom, .rule binary, ?_⟩
    · simp (disch := (refine hfits ?_; simp [GrammarBuilder.declare])) only [unfactored,
        GrammarBuilder.define_eq, GrammarBuilder.declare, GrammarBuilder.new, GrammarBuilder.bind,
        bind, Except.bind, pure, Except.pure, if_true]
      rfl
    · refine ⟨?_, ?_, ?_, ?_, Or.inr ⟨binary, rfl, ?_⟩⟩
      · refine List.forall_mem_cons.2 ⟨⟨trivial, trivial⟩, List.forall_mem_append.2 ⟨hshared, ?_⟩⟩
        exact List.forall_mem_singleton.2 hbinary
      · exact Grammar.body?_eq_some_iff.2 ⟨rfl, "number", rfl⟩
      · exact Grammar.body?_eq_some_iff.2 ⟨rfl, "atom", rfl⟩
      · exact Grammar.body?_eq_some_iff.2 ⟨rfl, "expr", rfl⟩
      · exact Grammar.body?_eq_some_iff.2 ⟨rfl, "binary", rfl⟩

end Vocabulary

section Unfactored

variable {number atom expr : Rule} {binary : Parser Expr Expr} {first second : Setting Expr}

theorem answers_binary_of_body
    (hsecond : standardVocabulary.Unfactored second.grammar number atom expr binary)
    {cursor reach : Nat} {outcome : Outcome Expr}
    (hanswers : (standardVocabulary.binaryBody atom expr).Answers second cursor outcome reach) :
    binary.Answers second cursor outcome reach := by
  rcases hsecond.binary_eq with rfl | ⟨handle, rfl, hbody⟩
  · exact hanswers
  · exact hanswers.rule hbody

section Alike

variable (hfirst : first.grammar = standard.grammar)
  (hsecond : standardVocabulary.Unfactored second.grammar number atom expr binary)
  (hparallel : first.Parallel second)

include hfirst hsecond hparallel

theorem alike_number (cursor : Nat) :
    Parser.Alike first second (.rule numberRule) (.rule number) cursor := by
  refine .rule (by rw [hfirst]; rfl) hsecond.body_number ?_
  exact .map _ (.alt (.primitive hparallel _ cursor) (.primitive hparallel _ cursor))

/-- An atom depends on the expressions behind its opening parenthesis. -/
theorem alike_atom {cursor : Nat}
    (hexpr : ∀ middle, cursor < middle → middle ≤ first.visible.length →
      Parser.Alike first second (.rule exprRule) (.rule expr) middle) :
    Parser.Alike first second (.rule atomRule) (.rule atom) cursor := by
  refine .rule (by rw [hfirst]; rfl) hsecond.body_atom ?_
  apply Parser.Alike.alt
  · exact alike_number hfirst hsecond hparallel cursor
  · apply Parser.Alike.thenIgnore
    · exact .ignoreThen (.primitive hparallel _ cursor) hexpr
    · intro middle _ _
      exact .primitive hparallel _ middle

/-- An expression depends on the expressions further on, of which there are only as many as there
are tokens. -/
theorem alike_expr (cursor : Nat) :
    Parser.Alike first second (.rule exprRule) (.rule expr) cursor := by
  induction hleft : first.visible.length - cursor using Nat.strong_induction_on
    generalizing cursor with
  | _ left ih =>
    have hexpr : ∀ middle, cursor < middle → middle ≤ first.visible.length →
        Parser.Alike first second (.rule exprRule) (.rule expr) middle := by
      intro middle hlt hle
      exact ih (first.visible.length - middle) (by omega) middle rfl
    refine .rule (by rw [hfirst]; rfl) hsecond.body_expr ?_
    have hsome : ∀ left operator right, Vocabulary.join (left, some (operator, right)) =
        Vocabulary.combine ((left, operator), right) := fun _ _ _ => rfl
    refine .factor (fun _ => rfl) hsome (fun _ _ => answers_binary_of_body hsecond) ?_ ?_ hexpr
    · exact alike_atom hfirst hsecond hparallel hexpr
    · intro middle _ _
      exact .primitive hparallel _ middle

end Alike

end Unfactored

theorem parallel_new {skip? : Option (Parser Expr Unit)}
    (hskip : skip? = none ∨ skip? = some standard.skip) (tokens : TokenSequence) (finish : Nat)
    (grammar : Grammar (RuleBody Expr)) :
    (Setting.new tokens finish standard.grammar skip?).Parallel
      (Setting.new tokens finish grammar skip?) := by
  rcases hskip with rfl | rfl
  · exact Setting.parallel_none tokens finish standard.grammar grammar
  · exact Setting.parallel_token tokens finish standard.grammar grammar standardVocabulary.blank
      fun _ => rfl

/-- **Left factoring keeps the meaning.** For all tokens, with or without skipping blanks, the
calculator's rule for expressions and the one that is not factored both come to an answer within
their allowance, from every start up to every end bound and for all tokens. They give the same
match, with the same cursor and furthest position, and the same expression or the same error for all
tokens. -/
theorem unfactored_eq :
    ∃ calculator, Calculator.new = .ok calculator ∧ ∀ owner named, ∃ expr grammar,
      calculator.vocabulary.unfactored owner named = .ok (expr, grammar) ∧
      ∀ tokens skip?, skip? = none ∨ skip? = some calculator.skip →
        let factored : Session Expr := ⟨calculator.grammar, tokens⟩
        let unfactored : Session Expr := ⟨grammar, tokens⟩
        (∀ start finish,
          factored.Ends (.rule calculator.expr) start finish skip? ∧
          unfactored.Ends (.rule expr) start finish skip? ∧
          (factored.run (.rule calculator.expr) start finish skip?).value =
            (unfactored.run (.rule expr) start finish skip?).value) ∧
        factored.EndsAll (.rule calculator.expr) skip? ∧
        unfactored.EndsAll (.rule expr) skip? ∧
        (factored.parseAll (.rule calculator.expr) skip?).value =
          (unfactored.parseAll (.rule expr) skip?).value := by
  refine ⟨standard, new_eq_standard, fun owner named => ?_⟩
  obtain ⟨expr, grammar, hmade, number, atom, binary, hunfactored⟩ :=
    standardVocabulary.exists_unfactored owner named
  refine ⟨expr, grammar, hmade, fun tokens skip? hskip => ?_⟩
  have hlibrary : ∀ skip, skip? = some skip → skip.IsLibrary := by
    rcases hskip with rfl | rfl
    · exact fun _ hnone => nomatch hnone
    · exact isLibrary_skip
  have hexpr : (Parser.rule expr : Parser Expr Expr).IsLibrary := trivial
  have hparallel := fun finish => parallel_new hskip tokens finish grammar
  have halike := fun finish => alike_expr rfl hunfactored (hparallel finish)
  constructor
  · intro start finish
    exact Session.run_eq_of_alike (isLibrary_grammar tokens) hunfactored.isLibrary
      isLibrary_expr hexpr hlibrary (halike finish start)
  · exact Session.parseAll_eq_of_alike (isLibrary_grammar tokens) hunfactored.isLibrary
      isLibrary_expr hexpr hlibrary (hparallel tokens.size) (halike tokens.size 0)

end Calculator

end TokenGrammar
