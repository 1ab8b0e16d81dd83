import TokenGrammar.Proofs.Calculator.Parsing

/-!
# The calculator reads its language

A source is accepted exactly if its tokens without blanks derive an expression, with that expression
as the result. Where a source is rejected, the error names the first token up to which there was
still a sentence to come, or the end.
-/

namespace TokenGrammar

namespace Calculator

variable {tokens : TokenSequence}

def session (tokens : TokenSequence) : Session Expr := ⟨standard.grammar, tokens⟩

theorem isLibrary_grammar (tokens : TokenSequence) : (session tokens).grammar.IsLibrary := by
  intro rule hrule
  simp only [session, standard, List.mem_cons, List.not_mem_nil, or_false] at hrule
  rcases hrule with rfl | rfl | rfl
  · exact ⟨trivial, trivial, trivial⟩
  · exact ⟨trivial, trivial⟩
  · exact ⟨trivial, ⟨trivial, trivial⟩, trivial⟩

theorem isLibrary_skip (skip : Parser Expr Unit) (hskip : some standard.skip = some skip) :
    skip.IsLibrary := by
  cases hskip
  trivial

/-- The tokens can be followed up to `stop`, what comes next does not fit, and the end is not the
end of an expression. -/
structure Rejected (tokens : TokenSequence) (stop : Nat) : Prop where
  le_size : stop ≤ tokens.size
  settles : settled tokens stop = stop
  blocked : ∃ phase,
    (Phase.operand 0).follow standardVocabulary (between tokens 0 stop) = some phase ∧
      (ahead tokens stop).bind phase.step = none ∧ (stop = tokens.size → phase ≠ .operator 0)

theorem Stuck.rejected {stop : Nat} (hstuck : Stuck tokens 0 stop) : Rejected tokens stop := by
  obtain ⟨phase, hfollow, hopen, hblocked⟩ := hstuck.blocked
  exact ⟨hstuck.le_size, hstuck.settles, phase, hfollow, hblocked, fun _ => hopen⟩

namespace Rejected

variable {stop : Nat} (hrejected : Rejected tokens stop)

include hrejected

theorem viable : Viable standardVocabulary (between tokens 0 stop) := by
  obtain ⟨phase, hfollow, -⟩ := hrejected.blocked
  have hnumber : standardVocabulary.terminal? ⟨2, "INT", "0", .empty⟩ = some (.number 0) := by rfl
  have hclosing : standardVocabulary.terminal? ⟨5, "RPAREN", ")", .empty⟩ = some .closing := by rfl
  exact (viable_iff_follow hnumber hclosing).2 ⟨phase, hfollow⟩

theorem not_viable {token : Token} (htoken : tokens.tokens.toList[stop]? = some token) :
    ¬ Viable standardVocabulary (between tokens 0 stop ++ [token]) := by
  obtain ⟨phase, hfollow, hblocked, -⟩ := hrejected.blocked
  rw [ahead, hrejected.settles, htoken, Option.bind_some] at hblocked
  intro hviable
  obtain ⟨phase', hphase⟩ := hviable.follow
  rw [Phase.follow_append, hfollow, Option.bind_some, Phase.follow_cons, Phase.next, hblocked]
    at hphase
  cases hphase

theorem not_derives (e : Expr) :
    ¬ Derives standardVocabulary .expr (between tokens 0 tokens.size) e := by
  intro hderives
  by_cases hend : stop = tokens.size
  · obtain ⟨phase, hfollow, -, hopen⟩ := hrejected.blocked
    have hwhole := hderives.follow 0
    rw [hend, hwhole] at hfollow
    exact hopen hend (Option.some.inj hfollow).symm
  · have hlt : stop < tokens.size := Nat.lt_of_le_of_ne hrejected.le_size hend
    have htoken : tokens.tokens.toList[stop]? = some tokens.tokens.toList[stop] :=
      List.getElem?_eq_getElem hlt
    have hnext : between tokens stop (settled tokens stop + 1) = [tokens.tokens.toList[stop]] :=
      significantBetween_settle_succ (by
        change tokens.tokens.toList[settled tokens stop]? = _
        rwa [hrejected.settles])
    rw [hrejected.settles] at hnext
    refine hrejected.not_viable htoken ⟨between tokens (stop + 1) tokens.size, e, ?_⟩
    rwa [← hnext, between_append stop (Nat.zero_le _) (Nat.le_succ _),
      between_append (stop + 1) (Nat.zero_le _) hlt]

end Rejected

inductive Ends (tokens : TokenSequence) : Except SyntaxError Expr → Prop where
  | accepts {e : Expr}
      (hderives : Derives standardVocabulary .expr (between tokens 0 tokens.size) e) :
      Ends tokens (.ok e)
  | rejects {stop : Nat} (hrejected : Rejected tokens stop) :
      Ends tokens (.error (.ofPosition tokens stop))

theorem isLibrary_expr : (Parser.rule exprRule : Parser Expr Expr).IsLibrary := trivial

theorem ends_parseAll (hreadable : ∀ token ∈ tokens.tokens, Readable token) :
    Ends tokens ((session tokens).parseAll (.rule exprRule) (some standard.skip)).value := by
  cases readsExpr hreadable 0 (Nat.zero_le _) with
  | stuck hstuck hanswers =>
    rw [Session.parseAll_value_of_answers_failed (isLibrary_grammar tokens) isLibrary_expr
      isLibrary_skip hanswers]
    exact .rejects hstuck.rejected
  | @gaveBack e next stop operator hstuck hnext hahead hanswers =>
    obtain ⟨_, -, -, hlast, -⟩ := exists_token_of_ahead hahead
    have hsettled : settled tokens next ≤ stop := settle_le hnext hstuck.settles
    rw [Session.parseAll_value_of_answers_matched (isLibrary_grammar tokens) isLibrary_expr
      isLibrary_skip (passesOver_blank tokens) hanswers]
    change Ends tokens (if settled tokens next = tokens.size then _ else
      .error (.ofPosition tokens (max (settled tokens next) stop)))
    rw [if_neg (Nat.ne_of_lt hlast), Nat.max_eq_right hsettled]
    exact .rejects hstuck.rejected
  | @reads e next hlt hsize hend hderives hanswers =>
    rw [Session.parseAll_value_of_answers_matched (isLibrary_grammar tokens) isLibrary_expr
      isLibrary_skip (passesOver_blank tokens) hanswers]
    change Ends tokens (if settled tokens next = tokens.size then .ok e else
      .error (.ofPosition tokens (max (settled tokens next) (settled tokens next))))
    have hbetween : between tokens 0 (settled tokens next) = between tokens 0 next :=
      between_settled (Nat.zero_le next)
    by_cases hall : settled tokens next = tokens.size
    · rw [if_pos hall]
      rw [hall] at hbetween
      exact .accepts (hbetween ▸ hderives)
    · rw [if_neg hall, Nat.max_self]
      have hfollow := hderives.follow 0
      rw [← hbetween] at hfollow
      refine .rejects ⟨settled_le_size hsize, settle_settle next, _, hfollow, ?_, (absurd · hall)⟩
      rw [ahead_settled, Option.bind_eq_none_iff]
      intro terminal hterminal
      cases terminal with
      | operator operator => exact absurd hterminal (hend operator)
      | number => rfl
      | opening => rfl
      | closing => rfl

/-! ### Whole sources -/

variable {source : String}

theorem tokenize_value (calculator : Calculator) (source : String) :
    (calculator.tokenize source).value = calculator.vocabulary.lexicon.scan source := by
  simp only [tokenize, Lexicon.tracedScan, bind, pure]
  split <;> rfl

theorem parse_value_of_error {error : ScanError}
    (htokens : (standard.tokenize source).value = .error error) :
    (standard.parse source).value = .error (.scan error) := by
  simp only [parse, bind, pure, htokens]

theorem parse_value_of_ok (htokens : (standard.tokenize source).value = .ok tokens) :
    (standard.parse source).value =
      ((session tokens).parseAll (.rule exprRule) (some standard.skip)).value.mapError
        .grammar := by
  simp only [parse, bind, pure, htokens]
  rfl

theorem ends_parse (htokens : (standard.tokenize source).value = .ok tokens) :
    ∃ result, Ends tokens result ∧ (standard.parse source).value = result.mapError .grammar := by
  rw [parse_value_of_ok htokens]
  rw [tokenize_value] at htokens
  exact ⟨_, ends_parseAll (readable_of_scan htokens), rfl⟩

theorem between_all (tokens : TokenSequence) :
    between tokens 0 tokens.size =
      significant standardVocabulary.blank.accepts tokens.tokens.toList :=
  significantBetween_length 0

theorem parse_eq_ok_iff (source : String) (e : Expr) :
    (standard.parse source).value = .ok e ↔
      ∃ tokens, (standard.tokenize source).value = .ok tokens ∧
        Derives standardVocabulary .expr
          (significant standardVocabulary.blank.accepts tokens.tokens.toList) e := by
  cases htokens : (standard.tokenize source).value with
  | error error => simp [parse_value_of_error htokens]
  | ok tokens =>
    obtain ⟨result, hends, hvalue⟩ := ends_parse htokens
    have hiff : result = .ok e ↔
        Derives standardVocabulary .expr (between tokens 0 tokens.size) e := by
      cases hends with
      | accepts hderives =>
        constructor
        · rintro ⟨⟩
          exact hderives
        · intro hderives'
          rw [hderives.tree_unique hderives']
      | rejects hrejected => simp [hrejected.not_derives e]
    have hmap : result.mapError CalcError.grammar = .ok e ↔ result = .ok e := by
      cases result <;> simp [Except.mapError]
    rw [hvalue, hmap, hiff, between_all]
    constructor
    · intro hderives
      exact ⟨tokens, rfl, hderives⟩
    · rintro ⟨_, ⟨⟩, hderives⟩
      exact hderives

/-- **The calculator accepts its language.** A source is read as an expression exactly if its tokens
that are not blank derive it. The grammar gives at most one tree, whose literals are not negative.
Every token counts in the grammar, unless it is blank or a literal that is too large. -/
theorem parse_iff_derives :
    ∃ calculator, Calculator.new = .ok calculator ∧
      (∀ source e, (calculator.parse source).value = .ok e ↔
        ∃ tokens, (calculator.tokenize source).value = .ok tokens ∧
          Derives calculator.vocabulary .expr
            (significant calculator.vocabulary.blank.accepts tokens.tokens.toList) e) ∧
      (∀ tokens e e', Derives calculator.vocabulary .expr tokens e →
        Derives calculator.vocabulary .expr tokens e' → e = e') ∧
      (∀ source e, (calculator.parse source).value = .ok e →
        ∀ n ∈ e.literals, 0 ≤ n.toInt ∧ n.toInt ≤ Int64.maxValue.toInt) ∧
      ∀ source tokens, (calculator.tokenize source).value = .ok tokens →
        ∀ token ∈ tokens.tokens, calculator.vocabulary.blank.accepts token = true ∨
          (∃ terminal, calculator.vocabulary.terminal? token = some terminal) ∨
          calculator.vocabulary.TooLarge token := by
  refine ⟨standard, new_eq_standard, parse_eq_ok_iff, ?_, ?_, ?_⟩
  · intro tokens e e' h h'
    exact h.tree_unique h'
  · intro source e hparse n hn
    obtain ⟨tokens, -, hderives⟩ := (parse_eq_ok_iff source e).1 hparse
    exact ⟨hderives.literals_nonneg n hn, n.toInt_le⟩
  · intro source tokens htokens
    rw [tokenize_value] at htokens
    exact terminal?_of_scan htokens

example : (standard.parse "8 - (3 - 0x2) - 1").value.toOption =
    some (.binary .sub (.number 8)
      (.binary .sub (.binary .sub (.number 3) (.number 2)) (.number 1))) := by
  decide +kernel

/-! ### Errors -/

theorem not_viable_of_tooLarge {token : Token} (h : standardVocabulary.TooLarge token)
    (before after : List Token) : ¬ Viable standardVocabulary (before ++ token :: after) := by
  intro hviable
  obtain ⟨phase, hfollow⟩ := hviable.follow
  rw [Phase.follow_append] at hfollow
  obtain ⟨middle, -, hrest⟩ := Option.bind_eq_some_iff.1 hfollow
  rw [Phase.follow_cons, Phase.next, terminal?_eq_none_of_tooLarge h] at hrest
  cases hrest

theorem Rejected.error_cases {stop : Nat} (hrejected : Rejected tokens stop) :
    (∃ token, tokens.get? stop = some token ∧ standardVocabulary.blank.accepts token = false ∧
      SyntaxError.ofPosition tokens stop =
        .unexpectedToken token.span.start.toNat token.text ∧
      Viable standardVocabulary (between tokens 0 stop) ∧
      ¬ Viable standardVocabulary (between tokens 0 stop ++ [token])) ∨
    SyntaxError.ofPosition tokens stop = .unexpectedEnd tokens.sourceSize ∧
      Viable standardVocabulary (between tokens 0 tokens.size) ∧
      ¬ ∃ e, Derives standardVocabulary .expr (between tokens 0 tokens.size) e := by
  rw [SyntaxError.ofPosition, TokenSequence.offsetOf]
  cases hget : tokens.get? stop with
  | some token =>
    have htoken : tokens.tokens.toList[stop]? = some token := by
      rwa [Array.getElem?_toList]
    refine Or.inl ⟨token, rfl, ?_, rfl, hrejected.viable, hrejected.not_viable htoken⟩
    rw [← hrejected.settles] at htoken
    exact not_passed_settle stop token htoken
  | none =>
    have hend : stop = tokens.size :=
      Nat.le_antisymm hrejected.le_size (Array.getElem?_eq_none_iff.1 hget)
    refine Or.inr ⟨rfl, hend ▸ hrejected.viable, ?_⟩
    rintro ⟨e, hderives⟩
    exact hrejected.not_derives e hderives

/-- **Errors name the first offending token.** The tokens before it that are not blank could still
become an expression, and with it they could not; or the source ends too early. No expression
contains a literal that is too large. -/
theorem syntaxError_first_offending :
    ∃ calculator, Calculator.new = .ok calculator ∧
      (∀ source tokens error, (calculator.tokenize source).value = .ok tokens →
        (calculator.parse source).value = .error (.grammar error) →
        (∃ position token, tokens.get? position = some token ∧
          calculator.vocabulary.blank.accepts token = false ∧
          error = .unexpectedToken token.span.start.toNat token.text ∧
          Viable calculator.vocabulary (significant calculator.vocabulary.blank.accepts
            (tokens.tokens.toList.take position)) ∧
          ¬ Viable calculator.vocabulary (significant calculator.vocabulary.blank.accepts
            (tokens.tokens.toList.take position) ++ [token])) ∨
        error = .unexpectedEnd source.utf8ByteSize ∧
          Viable calculator.vocabulary
            (significant calculator.vocabulary.blank.accepts tokens.tokens.toList) ∧
          ¬ ∃ e, Derives calculator.vocabulary .expr
            (significant calculator.vocabulary.blank.accepts tokens.tokens.toList) e) ∧
      ∀ token, calculator.vocabulary.TooLarge token → ∀ before after,
        ¬ Viable calculator.vocabulary (before ++ token :: after) := by
  refine ⟨standard, new_eq_standard, ?_, fun token h => not_viable_of_tooLarge h⟩
  intro source tokens error htokens hparse
  obtain ⟨result, hends, hvalue⟩ := ends_parse htokens
  rw [hvalue] at hparse
  cases hends with
  | accepts => cases hparse
  | @rejects stop hrejected =>
    obtain rfl : SyntaxError.ofPosition tokens stop = error := by
      simpa [Except.mapError] using hparse
    have hsize : tokens.sourceSize = source.utf8ByteSize := by
      rw [tokenize_value] at htokens
      rw [Lexicon.eq_of_scan htokens]
    rcases hrejected.error_cases with ⟨token, htoken⟩ | herror
    · exact Or.inl ⟨stop, token, htoken⟩
    · rw [hsize, between_all] at herror
      exact Or.inr herror

/-- In `1 +)` the parenthesis does not fit. No expression has a literal of `2^63` behind it. -/
theorem syntaxError_first_offending_parenthesis :
    let one : Token := ⟨2, "INT", "1", .ofOffsets 0 1⟩
    let plus : Token := ⟨3, "OP", "+", .ofOffsets 2 3⟩
    let closing : Token := ⟨5, "RPAREN", ")", .ofOffsets 3 4⟩
    let large : Token := ⟨2, "INT", "9223372036854775808", .ofOffsets 4 23⟩
    ∃ calculator, Calculator.new = .ok calculator ∧
      (calculator.parse "1 +)").value = .error (.grammar (.unexpectedToken 3 ")")) ∧
      Viable calculator.vocabulary [one, plus] ∧
      ¬ Viable calculator.vocabulary [one, plus, closing] ∧
      calculator.vocabulary.TooLarge large ∧
      ¬ Viable calculator.vocabulary [one, plus, large] := by
  intro one plus closing large
  obtain ⟨calculator, hnew, hoffending, hlarge⟩ := syntaxError_first_offending
  obtain rfl : standard = calculator := Except.ok.inj (new_eq_standard.symm.trans hnew)
  have htokens : (standard.tokenize "1 +)").value =
      .ok ⟨#[one, ⟨0, "WS", " ", .ofOffsets 1 2⟩, plus, closing], 4⟩ := by decide +kernel
  have hparse : (standard.parse "1 +)").value =
      .error (.grammar (.unexpectedToken 3 ")")) := by decide +kernel
  have htooLarge : standard.vocabulary.TooLarge large :=
    ⟨9223372036854775808, by decide, Or.inr ⟨rfl, by decide +kernel⟩⟩
  have hfirst : Viable standard.vocabulary [one, plus] ∧
      ¬ Viable standard.vocabulary [one, plus, closing] := by
    rcases hoffending _ _ _ htokens hparse with
      ⟨position, token, htoken, -, herror, hviable⟩ | ⟨herror, -⟩
    · obtain ⟨hstart, -⟩ := SyntaxError.unexpectedToken.inj herror
      -- Only the parenthesis starts at 3.
      rcases position with _ | _ | _ | _ | position
      case succ.succ.succ.zero =>
        cases htoken
        exact hviable
      all_goals cases htoken <;> cases hstart
    · cases herror
  exact ⟨standard, hnew, hparse, hfirst.1, hfirst.2, htooLarge,
    hlarge large htooLarge [one, plus] []⟩

end Calculator

end TokenGrammar
