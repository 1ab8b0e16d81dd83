import TokenGrammar.Proofs.Calculator.Tokens
import TokenGrammar.Proofs.Session

/-!
# How the calculator parses

From every cursor the rule for expressions either reads an expression after which no operator
follows, or gets stuck at the first token that does not fit. In the second case it may still match,
because it goes back in front of an operator whose right side is wrong; but then that operator is
left over, and the furthest refusal is at the token where it got stuck.
-/

namespace TokenGrammar

namespace Calculator

def setting (tokens : TokenSequence) : Setting Expr :=
  Setting.new tokens tokens.size standard.grammar (some standard.skip)

/-- The position of the next token that is not blank. -/
def settled (tokens : TokenSequence) (cursor : Nat) : Nat :=
  settle standardVocabulary.blank.accepts tokens.tokens.toList cursor

def between (tokens : TokenSequence) (start stop : Nat) : List Token :=
  significantBetween standardVocabulary.blank.accepts tokens.tokens.toList start stop

/-- What the next token that is not blank stands for. -/
def ahead (tokens : TokenSequence) (cursor : Nat) : Option Terminal :=
  (tokens.tokens.toList[settled tokens cursor]?).bind standardVocabulary.terminal?

variable {tokens : TokenSequence} {cursor : Nat}

theorem le_settled (tokens : TokenSequence) (cursor : Nat) : cursor ≤ settled tokens cursor :=
  le_settle _ _ cursor

theorem settled_le_size (hcursor : cursor ≤ tokens.size) : settled tokens cursor ≤ tokens.size :=
  settle_le_length hcursor

theorem ahead_settled (cursor : Nat) :
    ahead tokens (settled tokens cursor) = ahead tokens cursor := by
  rw [ahead, ahead, settled, settled, settle_settle]

theorem exists_token_of_ahead {terminal : Terminal} (h : ahead tokens cursor = some terminal) :
    ∃ token, tokens.tokens.toList[settled tokens cursor]? = some token ∧
      standardVocabulary.terminal? token = some terminal ∧ settled tokens cursor < tokens.size ∧
      between tokens cursor (settled tokens cursor + 1) = [token] := by
  obtain ⟨token, htoken, hterminal⟩ := Option.bind_eq_some_iff.1 h
  obtain ⟨hlt, -⟩ := List.getElem?_eq_some_iff.1 htoken
  exact ⟨token, htoken, hterminal, hlt, significantBetween_settle_succ htoken⟩

/-! ### Single tokens -/

theorem visible_setting (tokens : TokenSequence) :
    (setting tokens).visible = tokens.tokens.toList :=
  Setting.visible_new_size tokens _ _

theorem passesOver_blank (tokens : TokenSequence) :
    (setting tokens).PassesOver standardVocabulary.blank.accepts :=
  Parser.passesOver_token standardVocabulary.blank rfl fun _ _ _ => rfl

theorem settle_visible (tokens : TokenSequence) (cursor : Nat) :
    settle standardVocabulary.blank.accepts (setting tokens).visible cursor =
      settled tokens cursor := by
  rw [visible_setting, settled]

theorem lands_settled (tokens : TokenSequence) (cursor : Nat) :
    (setting tokens).Lands cursor (settled tokens cursor) (settled tokens cursor) := by
  rw [← settle_visible]
  exact Parser.lands_settle (passesOver_blank tokens) cursor

section Token

variable {α : Type} {kind : Kind α}

theorem answers_token {token : Token} {value : α}
    (htoken : tokens.tokens.toList[settled tokens cursor]? = some token)
    (hdecode : kind.decode token = some value) :
    (Parser.token kind).Answers (setting tokens) cursor
      (.matched value (settled tokens cursor + 1)) (settled tokens cursor) := by
  rw [← visible_setting tokens] at htoken
  exact .primitive (lands_settled tokens cursor) htoken
    ((Parser.decode_token_eq kind token).trans hdecode)

theorem answers_token_of_failed
    (hdecode : ∀ token, tokens.tokens.toList[settled tokens cursor]? = some token →
      kind.decode token = none) :
    (Parser.token kind).Answers (setting tokens) cursor .failed (settled tokens cursor) := by
  refine Parser.Answers.congr_reach ?_ (Nat.max_self (settled tokens cursor))
  refine .primitive_of_failed (lands_settled tokens cursor) fun token htoken => ?_
  rw [visible_setting] at htoken
  exact (Parser.decode_token_eq kind token).trans (hdecode token htoken)

theorem answers_token_iff {terminal : α → Terminal}
    (hterminal : ∀ token value, standardVocabulary.terminal? token = some (terminal value) ↔
      kind.decode token = some value) :
    (∀ value, ahead tokens cursor = some (terminal value) →
      (Parser.token kind).Answers (setting tokens) cursor
        (.matched value (settled tokens cursor + 1)) (settled tokens cursor)) ∧
    ((∀ value, ahead tokens cursor ≠ some (terminal value)) →
      (Parser.token kind).Answers (setting tokens) cursor .failed (settled tokens cursor)) := by
  constructor
  · intro value hahead
    obtain ⟨token, htoken, hvalue, -⟩ := exists_token_of_ahead hahead
    exact answers_token htoken ((hterminal token value).1 hvalue)
  · intro hahead
    refine answers_token_of_failed fun token htoken => ?_
    rw [Option.eq_none_iff_forall_ne_some]
    intro value hvalue
    refine hahead value ?_
    rw [ahead, htoken, Option.bind_some, (hterminal token value).2 hvalue]

end Token

section Rules

variable (hreadable : ∀ token ∈ tokens.tokens, Readable token)

include hreadable

theorem readable_of_getElem? {position : Nat} {token : Token}
    (htoken : tokens.tokens.toList[position]? = some token) : Readable token :=
  hreadable token (Array.mem_toList_iff.1 (List.mem_of_getElem? htoken))

theorem answers_number {n : Int64} (hahead : ahead tokens cursor = some (.number n)) :
    (Parser.rule numberRule).Answers (setting tokens) cursor
      (.matched (.number n) (settled tokens cursor + 1)) (settled tokens cursor) := by
  obtain ⟨token, htoken, hterminal, -⟩ := exists_token_of_ahead hahead
  have hliteral : (Parser.alt (.token standardVocabulary.hex)
      (.token standardVocabulary.decimal)).Answers (setting tokens) cursor
        (.matched n (settled tokens cursor + 1)) (settled tokens cursor) := by
    rcases (terminal?_number_iff (readable_of_getElem? hreadable htoken) n).1 hterminal with
      hhex | ⟨hhex, hdecimal⟩
    · exact .alt _ (answers_token htoken hhex)
    · have hfailed : (Parser.token standardVocabulary.hex).Answers (setting tokens) cursor .failed
          (settled tokens cursor) := answers_token_of_failed fun other hother => by
        rwa [← Option.some.inj (htoken.symm.trans hother)]
      exact (hfailed.alt_of_failed (answers_token htoken hdecimal)).congr_reach (Nat.max_self _)
  exact .rule rfl (hliteral.map Expr.number)

theorem answers_number_of_failed (hahead : ∀ n, ahead tokens cursor ≠ some (.number n)) :
    (Parser.rule numberRule).Answers (setting tokens) cursor .failed (settled tokens cursor) := by
  have hnone : ∀ token, tokens.tokens.toList[settled tokens cursor]? = some token →
      standardVocabulary.hex.decode token = none ∧
        standardVocabulary.decimal.decode token = none := by
    intro token htoken
    have hterminal := terminal?_number_iff (readable_of_getElem? hreadable htoken)
    have hother : ∀ n, standardVocabulary.terminal? token ≠ some (.number n) := by
      intro n hn
      exact hahead n (by rw [ahead, htoken, Option.bind_some, hn])
    have hhex : standardVocabulary.hex.decode token = none :=
      Option.eq_none_iff_forall_ne_some.2 fun n hn => hother n ((hterminal n).2 (Or.inl hn))
    refine ⟨hhex, Option.eq_none_iff_forall_ne_some.2 fun n hn => ?_⟩
    exact hother n ((hterminal n).2 (Or.inr ⟨hhex, hn⟩))
  have hliteral : (Parser.alt (.token standardVocabulary.hex)
      (.token standardVocabulary.decimal)).Answers (setting tokens) cursor .failed
        (max (settled tokens cursor) (settled tokens cursor)) :=
    (answers_token_of_failed fun token htoken => (hnone token htoken).1).alt_of_failed
      (answers_token_of_failed fun token htoken => (hnone token htoken).2)
  rw [Nat.max_self] at hliteral
  exact .rule rfl (hliteral.map Expr.number)

theorem answers_parens {e : Expr} {next reach reach' : Nat} {outcome : Outcome Unit}
    (hahead : ahead tokens cursor = some .opening)
    (hexpr : (Parser.rule exprRule).Answers (setting tokens) (settled tokens cursor + 1)
      (.matched e next) reach)
    (hclosing : (Parser.token standardVocabulary.closing).Answers (setting tokens) next outcome
      reach') :
    (Parser.rule atomRule).Answers (setting tokens) cursor (outcome.map fun _ => e)
      (max (settled tokens cursor) (max reach reach')) := by
  have hnumber := answers_number_of_failed hreadable fun n hn => by
    rw [hahead] at hn
    cases hn
  have hopening := (answers_token_iff fun _ => terminal?_opening_iff).1 () hahead
  refine (Parser.Answers.rule rfl (hnumber.alt_of_failed
    ((hopening.ignoreThen hexpr).thenIgnore hclosing))).congr_reach ?_
  omega

theorem answers_parens_of_failed {reach : Nat} (hahead : ahead tokens cursor = some .opening)
    (hexpr : (Parser.rule exprRule).Answers (setting tokens) (settled tokens cursor + 1) .failed
      reach) :
    (Parser.rule atomRule).Answers (setting tokens) cursor .failed
      (max (settled tokens cursor) reach) := by
  have hnumber := answers_number_of_failed hreadable fun n hn => by
    rw [hahead] at hn
    cases hn
  have hopening := (answers_token_iff fun _ => terminal?_opening_iff).1 () hahead
  refine (Parser.Answers.rule rfl (hnumber.alt_of_failed
    ((hopening.ignoreThen hexpr).thenIgnore_of_failed _))).congr_reach ?_
  omega

theorem answers_atom_of_failed (hnumber : ∀ n, ahead tokens cursor ≠ some (.number n))
    (hopening : ahead tokens cursor ≠ some .opening) :
    (Parser.rule atomRule).Answers (setting tokens) cursor .failed (settled tokens cursor) := by
  have hfailed := (answers_token_iff fun _ => terminal?_opening_iff).2 fun _ => hopening
  refine (Parser.Answers.rule rfl ((answers_number_of_failed hreadable hnumber).alt_of_failed
    ((hfailed.ignoreThen_of_failed _).thenIgnore_of_failed _))).congr_reach ?_
  exact Nat.max_self _

omit hreadable

theorem answers_expr_of_failed {reach : Nat}
    (hatom : (Parser.rule atomRule).Answers (setting tokens) cursor .failed reach) :
    (Parser.rule exprRule).Answers (setting tokens) cursor .failed reach :=
  .rule rfl ((hatom.seq_of_failed _).map Vocabulary.join)

section Atom

variable {l : Expr} {next reach : Nat}
  (hatom : (Parser.rule atomRule).Answers (setting tokens) cursor (.matched l next) reach)

include hatom

theorem answers_expr_of_atom (hahead : ∀ operator, ahead tokens next ≠ some (.operator operator)) :
    (Parser.rule exprRule).Answers (setting tokens) cursor (.matched l next)
      (max reach (settled tokens next)) := by
  have hoperator := (answers_token_iff fun _ => terminal?_operator_iff).2 hahead
  exact .rule rfl ((hatom.seq (hoperator.seq_of_failed _).optional_of_failed).map Vocabulary.join)

theorem answers_binary {operator : Operator}
    (hahead : ahead tokens next = some (.operator operator)) {r : Expr} {next' reach' : Nat}
    (hright : (Parser.rule exprRule).Answers (setting tokens) (settled tokens next + 1)
      (.matched r next') reach') :
    (Parser.rule exprRule).Answers (setting tokens) cursor (.matched (.binary operator l r) next')
      (max reach (max (settled tokens next) reach')) := by
  have hoperator := (answers_token_iff fun _ => terminal?_operator_iff).1 operator hahead
  exact .rule rfl ((hatom.seq (hoperator.seq hright).optional).map Vocabulary.join)

/-- An operator whose right side is wrong is given back. -/
theorem answers_expr_of_right_failed {operator : Operator}
    (hahead : ahead tokens next = some (.operator operator)) {reach' : Nat}
    (hright : (Parser.rule exprRule).Answers (setting tokens) (settled tokens next + 1) .failed
      reach') :
    (Parser.rule exprRule).Answers (setting tokens) cursor (.matched l next)
      (max reach (max (settled tokens next) reach')) := by
  have hoperator := (answers_token_iff fun _ => terminal?_operator_iff).1 operator hahead
  exact .rule rfl ((hatom.seq (hoperator.seq hright).optional_of_failed).map Vocabulary.join)

end Atom

end Rules

/-! ### Getting stuck -/

/-- The tokens from `start` on can be followed up to `stop`, inside an expression that has not ended
there, and what comes next does not fit. -/
structure Stuck (tokens : TokenSequence) (start stop : Nat) : Prop where
  le : start ≤ stop
  le_size : stop ≤ tokens.size
  settles : settled tokens stop = stop
  blocked : ∃ phase,
    (Phase.operand 0).follow standardVocabulary (between tokens start stop) = some phase ∧
      phase ≠ .operator 0 ∧ (ahead tokens stop).bind phase.step = none

variable {start stop : Nat}

theorem between_append (middle : Nat) (hstart : start ≤ middle) (hstop : middle ≤ stop) :
    between tokens start middle ++ between tokens middle stop = between tokens start stop :=
  significantBetween_append hstart hstop

theorem between_settled (hle : start ≤ cursor) :
    between tokens start (settled tokens cursor) = between tokens start cursor := by
  have hblank : between tokens cursor (settled tokens cursor) = [] :=
    significantBetween_settle cursor
  rw [← between_append cursor hle (le_settled tokens cursor), hblank, List.append_nil]

theorem Stuck.of_ahead (hle : start ≤ cursor) (hsize : cursor ≤ tokens.size) {phase : Phase}
    (hfollow : (Phase.operand 0).follow standardVocabulary (between tokens start cursor) =
      some phase) (hopen : phase ≠ .operator 0)
    (hahead : ∀ terminal, ahead tokens cursor = some terminal → phase.step terminal = none) :
    Stuck tokens start (settled tokens cursor) where
  le := Nat.le_trans hle (le_settled tokens cursor)
  le_size := settled_le_size hsize
  settles := settle_settle cursor
  blocked := by
    refine ⟨phase, by rwa [between_settled hle], hopen, ?_⟩
    rw [ahead_settled, Option.bind_eq_none_iff]
    exact hahead

/-- Getting stuck in an operand is getting stuck in what the operand belongs to. -/
theorem Stuck.prepend {middle depth : Nat} (hstuck : Stuck tokens middle stop)
    (hle : start ≤ middle)
    (hfollow : (Phase.operand 0).follow standardVocabulary (between tokens start middle) =
      some (.operand depth)) : Stuck tokens start stop where
  le := Nat.le_trans hle hstuck.le
  le_size := hstuck.le_size
  settles := hstuck.settles
  blocked := by
    obtain ⟨phase, hphase, hopen, hblocked⟩ := hstuck.blocked
    refine ⟨phase.deepen depth, ?_, Phase.deepen_ne hopen depth, ?_⟩
    · rw [← between_append middle hle hstuck.le, Phase.follow_append, hfollow, Option.bind_some]
      have hdeep := Phase.follow_deepen hphase depth
      rwa [Phase.deepen, Nat.zero_add] at hdeep
    · rw [Option.bind_eq_none_iff] at hblocked ⊢
      intro terminal hterminal
      exact Phase.step_deepen_eq_none hopen (hblocked terminal hterminal) depth

/-! ### What the rules do from a cursor -/

/-- The rule for atoms reads one, or fails where it gets stuck. -/
inductive ReadsAtom (tokens : TokenSequence) (cursor : Nat) : Prop where
  | reads {e : Expr} {next reach : Nat} (hlt : cursor < next) (hsize : next ≤ tokens.size)
      (hreach : reach < next)
      (hderives : Derives standardVocabulary .atom (between tokens cursor next) e)
      (hanswers : (Parser.rule atomRule).Answers (setting tokens) cursor (.matched e next) reach)
  | stuck {stop : Nat} (hstuck : Stuck tokens cursor stop)
      (hanswers : (Parser.rule atomRule).Answers (setting tokens) cursor .failed stop)

/-- The rule for expressions reads one that no operator follows, or fails where it gets stuck, or
gets stuck and gives back an operator. -/
inductive ReadsExpr (tokens : TokenSequence) (cursor : Nat) : Prop where
  | reads {e : Expr} {next : Nat} (hlt : cursor < next) (hsize : next ≤ tokens.size)
      (hend : ∀ operator, ahead tokens next ≠ some (.operator operator))
      (hderives : Derives standardVocabulary .expr (between tokens cursor next) e)
      (hanswers : (Parser.rule exprRule).Answers (setting tokens) cursor (.matched e next)
        (settled tokens next))
  | stuck {stop : Nat} (hstuck : Stuck tokens cursor stop)
      (hanswers : (Parser.rule exprRule).Answers (setting tokens) cursor .failed stop)
  | gaveBack {e : Expr} {next stop : Nat} {operator : Operator} (hstuck : Stuck tokens cursor stop)
      (hnext : next ≤ stop) (hahead : ahead tokens next = some (.operator operator))
      (hanswers : (Parser.rule exprRule).Answers (setting tokens) cursor (.matched e next) stop)

theorem follow_opening (hahead : ahead tokens cursor = some .opening) :
    (Phase.operand 0).follow standardVocabulary
      (between tokens cursor (settled tokens cursor + 1)) = some (.operand 1) := by
  obtain ⟨token, -, hterminal, -, hbetween⟩ := exists_token_of_ahead hahead
  rw [hbetween, Phase.follow_cons, Phase.next_eq_step hterminal]
  rfl

theorem follow_atom_operator {l : Expr} {next : Nat} {operator : Operator} (hle : cursor ≤ next)
    (hatom : Derives standardVocabulary .atom (between tokens cursor next) l)
    (hahead : ahead tokens next = some (.operator operator)) :
    (Phase.operand 0).follow standardVocabulary
      (between tokens cursor (settled tokens next + 1)) = some (.operand 0) := by
  obtain ⟨token, -, hterminal, -, hbetween⟩ := exists_token_of_ahead hahead
  have hafter : next ≤ settled tokens next + 1 := Nat.le_succ_of_le (le_settled tokens next)
  rw [← between_append next hle hafter, hbetween, Phase.follow_append, hatom.follow 0,
    Option.bind_some, Phase.follow_cons, Phase.next_eq_step hterminal]
  rfl

theorem readsAtom_of_number (hreadable : ∀ token ∈ tokens.tokens, Readable token) {n : Int64}
    (hahead : ahead tokens cursor = some (.number n)) : ReadsAtom tokens cursor := by
  obtain ⟨token, -, hterminal, hlt, hbetween⟩ := exists_token_of_ahead hahead
  have hle := le_settled tokens cursor
  refine .reads (by omega) hlt (Nat.lt_succ_self _) ?_
    (.rule rfl (.alt _ (answers_number hreadable hahead)))
  rw [hbetween]
  exact .number (.literal hterminal)

theorem readsAtom_of_opening (hreadable : ∀ token ∈ tokens.tokens, Readable token)
    (hahead : ahead tokens cursor = some .opening)
    (hinner : ReadsExpr tokens (settled tokens cursor + 1)) : ReadsAtom tokens cursor := by
  have hle := le_settled tokens cursor
  have hopening := follow_opening hahead
  cases hinner with
  | stuck hstuck hanswers =>
    have hstop := hstuck.le
    refine .stuck (hstuck.prepend (by omega) hopening) ?_
    exact (answers_parens_of_failed hreadable hahead hanswers).congr_reach (by omega)
  | @gaveBack e next stop operator hstuck hnext hoperator hanswers =>
    -- The operator that was given back stands where the parenthesis should close.
    have hstop := hstuck.le
    have hsettled : settled tokens next ≤ stop := settle_le hnext hstuck.settles
    have hclosing := (answers_token_iff fun _ => terminal?_closing_iff).2 fun _ hclosing => by
      rw [hoperator] at hclosing
      cases hclosing
    refine .stuck (hstuck.prepend (by omega) hopening) ?_
    exact (answers_parens hreadable hahead hanswers hclosing).congr_reach (by omega)
  | @reads e next hlt hsize hend hderives hanswers =>
    have hsettled := le_settled tokens next
    by_cases hclosed : ahead tokens next = some .closing
    · obtain ⟨opening, -, hopens, -, hfirst⟩ := exists_token_of_ahead hahead
      obtain ⟨closing, -, hcloses, hlast, hbetween⟩ := exists_token_of_ahead hclosed
      have hclosing := (answers_token_iff fun _ => terminal?_closing_iff).1 () hclosed
      have hanswers' : (Parser.rule atomRule).Answers (setting tokens) cursor
          (.matched e (settled tokens next + 1)) (settled tokens next) :=
        (answers_parens hreadable hahead hanswers hclosing).congr_reach (by omega)
      refine .reads (by omega) hlast (Nat.lt_succ_self _) ?_ hanswers'
      rw [← between_append (settled tokens cursor + 1) (by omega) (by omega), hfirst,
        ← between_append next (by omega) (by omega), hbetween]
      exact .parens hopens hderives hcloses
    · have hclosing := (answers_token_iff fun _ => terminal?_closing_iff).2 fun _ => hclosed
      have hfollow : (Phase.operand 0).follow standardVocabulary (between tokens cursor next) =
          some (.operator 1) := by
        rw [← between_append (settled tokens cursor + 1) (by omega) (by omega),
          Phase.follow_append, hopening, Option.bind_some, hderives.follow 1]
      refine .stuck (Stuck.of_ahead (by omega) hsize hfollow (by simp) ?_)
        ((answers_parens hreadable hahead hanswers hclosing).congr_reach (by omega))
      intro terminal hterminal
      cases terminal with
      | number => rfl
      | operator operator => exact absurd hterminal (hend operator)
      | opening => rfl
      | closing => exact absurd hterminal hclosed

/-- **One step of atoms**, from what expressions do further on. -/
theorem readsAtom_step (hreadable : ∀ token ∈ tokens.tokens, Readable token)
    (hcursor : cursor ≤ tokens.size)
    (hlater : ∀ later, cursor < later → later ≤ tokens.size → ReadsExpr tokens later) :
    ReadsAtom tokens cursor := by
  by_cases hnumber : ∃ n, ahead tokens cursor = some (.number n)
  · obtain ⟨n, hahead⟩ := hnumber
    exact readsAtom_of_number hreadable hahead
  by_cases hopening : ahead tokens cursor = some .opening
  · obtain ⟨_, -, -, hlt, -⟩ := exists_token_of_ahead hopening
    have hle := le_settled tokens cursor
    exact readsAtom_of_opening hreadable hopening (hlater _ (by omega) hlt)
  · have hother : ∀ n, ahead tokens cursor ≠ some (.number n) := fun n hn => hnumber ⟨n, hn⟩
    have hfollow : (Phase.operand 0).follow standardVocabulary (between tokens cursor cursor) =
        some (.operand 0) := by
      rw [between, significantBetween_self, Phase.follow_nil]
    refine .stuck (Stuck.of_ahead (Nat.le_refl cursor) hcursor hfollow (by simp) ?_)
      (answers_atom_of_failed hreadable hother hopening)
    intro terminal hterminal
    cases terminal with
    | number n => exact absurd hterminal (hother n)
    | operator => rfl
    | opening => exact absurd hterminal hopening
    | closing => rfl

/-- **One step of expressions**, from the atom there and what expressions do further on. -/
theorem readsExpr_step (hatom : ReadsAtom tokens cursor)
    (hlater : ∀ later, cursor < later → later ≤ tokens.size → ReadsExpr tokens later) :
    ReadsExpr tokens cursor := by
  cases hatom with
  | stuck hstuck hanswers => exact .stuck hstuck (answers_expr_of_failed hanswers)
  | @reads l next reach hlt hsize hreach hderives hanswers =>
    have hle := le_settled tokens next
    by_cases hoperator : ∃ operator, ahead tokens next = some (.operator operator)
    · obtain ⟨operator, hahead⟩ := hoperator
      obtain ⟨symbol, -, hsymbol, hlast, hbetween⟩ := exists_token_of_ahead hahead
      have hfollow := follow_atom_operator (by omega) hderives hahead
      cases hlater (settled tokens next + 1) (by omega) hlast with
      | @reads r next' hlt' hsize' hend' hderives' hanswers' =>
        have hle' := le_settled tokens next'
        refine .reads (by omega) hsize' hend' ?_
          ((answers_binary hanswers hahead hanswers').congr_reach (by omega))
        have hright : between tokens next next' =
            [symbol] ++ between tokens (settled tokens next + 1) next' := by
          rw [← between_append (settled tokens next + 1) (by omega) (by omega), hbetween]
        rw [← between_append next (by omega) (by omega), hright]
        exact .binary hderives hsymbol hderives'
      | stuck hstuck hanswers' =>
        have hstop := hstuck.le
        exact .gaveBack (hstuck.prepend (by omega) hfollow) (by omega) hahead
          ((answers_expr_of_right_failed hanswers hahead hanswers').congr_reach (by omega))
      | gaveBack hstuck hnext' hahead' hanswers' =>
        have hstop := hstuck.le
        exact .gaveBack (hstuck.prepend (by omega) hfollow) hnext' hahead'
          ((answers_binary hanswers hahead hanswers').congr_reach (by omega))
    · have hend : ∀ operator, ahead tokens next ≠ some (.operator operator) :=
        fun operator h => hoperator ⟨operator, h⟩
      refine .reads hlt hsize hend (.atom hderives) ?_
      exact (answers_expr_of_atom hanswers hend).congr_reach (by omega)

/-- **All cursors.** Every step leads to a later cursor, so the steps settle what expressions do. -/
theorem readsExpr (hreadable : ∀ token ∈ tokens.tokens, Readable token) (cursor : Nat)
    (hcursor : cursor ≤ tokens.size) : ReadsExpr tokens cursor := by
  have hlater : ∀ later, cursor < later → later ≤ tokens.size → ReadsExpr tokens later :=
    fun later _ hsize => readsExpr hreadable later hsize
  exact readsExpr_step (readsAtom_step hreadable hcursor hlater) hlater
termination_by tokens.size - cursor

end Calculator

end TokenGrammar
