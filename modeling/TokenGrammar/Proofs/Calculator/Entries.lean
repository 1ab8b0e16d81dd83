import Mathlib.Data.List.ProdSigma
import TokenGrammar.Proofs.Calculator.Correct
import TokenGrammar.Proofs.Parser.Entries
import TokenGrammar.Proofs.Parser.Furthest

/-!
# The calculator does not parse twice

The rules of the calculator give attempts up and try others from the same cursor, but never the same
rule from there again. An expression enters its atom, and the atom a number and, behind a
parenthesis, an expression further on. If the atom is read, all of this lies before its end, and an
operator leads to an expression behind it. So no rule is entered twice at one position.
-/

namespace TokenGrammar

namespace Calculator

/-! ### Entries in a range of positions -/

def ruleNames : List String := ["expr", "atom", "number"]

/-- Entries of rules of the calculator from `start` on and before `stop`, each of them once. -/
structure Spread (start stop : Nat) (entries : List (String × Nat)) : Prop where
  nodup : entries.Nodup
  range : ∀ entry ∈ entries, entry.1 ∈ ruleNames ∧ start ≤ entry.2 ∧ entry.2 < stop

namespace Spread

variable {start start' middle stop stop' : Nat} {entries entries' : List (String × Nat)}

theorem nil (start stop : Nat) : Spread start stop [] :=
  ⟨List.nodup_nil, by simp⟩

theorem mono (h : Spread start stop entries) (hstart : start' ≤ start) (hstop : stop ≤ stop') :
    Spread start' stop' entries := by
  refine ⟨h.nodup, fun entry hentry => ?_⟩
  obtain ⟨hname, hfrom, hbefore⟩ := h.range entry hentry
  exact ⟨hname, hstart.trans hfrom, hbefore.trans_le hstop⟩

theorem append (h : Spread start middle entries) (h' : Spread middle stop entries')
    (hstart : start ≤ middle) (hstop : middle ≤ stop) :
    Spread start stop (entries ++ entries') := by
  constructor
  · refine List.nodup_append.2 ⟨h.nodup, h'.nodup, ?_⟩
    rintro entry hentry _ hentry' rfl
    have hbefore := (h.range entry hentry).2.2
    have hfrom := (h'.range entry hentry').2.1
    omega
  · intro entry hentry
    rcases List.mem_append.1 hentry with hmem | hmem
    · exact (h.mono (Nat.le_refl start) hstop).range entry hmem
    · exact (h'.mono hstart (Nat.le_refl stop)).range entry hmem

/-- All three rules, entered at one position before the rest. -/
theorem rules (h : Spread (start + 1) stop entries) (hlt : start < stop) :
    Spread start stop (("expr", start) :: ("atom", start) :: ("number", start) :: entries) := by
  have hthree : Spread start (start + 1) (ruleNames.map (·, start)) := by
    constructor
    · simp [ruleNames]
    · simp [ruleNames]
  exact hthree.append h (Nat.le_succ start) hlt

/-- There are three rules to enter at each position. -/
theorem length_le (h : Spread 0 stop entries) : entries.length ≤ 3 * stop := by
  have hsubset : entries ⊆ ruleNames ×ˢ List.range stop := by
    rintro ⟨name, position⟩ hentry
    obtain ⟨hname, -, hbefore⟩ := h.range _ hentry
    exact List.mem_product.2 ⟨hname, List.mem_range.2 hbefore⟩
  have hlength := (h.nodup.subperm hsubset).length_le
  rwa [List.length_product, List.length_range] at hlength

end Spread

variable {tokens : TokenSequence} {cursor : Nat}

/-! ### What the rules enter from a cursor -/

theorem skipFrom_enters (tokens : TokenSequence) (fuel cursor : Nat) :
    (Parser.skipFrom fuel (setting tokens) cursor).Enters [] :=
  (Parser.TakesOne.primitive ⟨standardVocabulary.blank, none⟩).skipFrom_enters rfl fuel cursor

theorem token_entersNothing {α : Type} (tokens : TokenSequence) (kind : Kind α) :
    (Parser.token kind).EntersNothing (setting tokens) :=
  .primitive (skipFrom_enters tokens) ⟨kind, none⟩

theorem number_enters (tokens : TokenSequence) (cursor : Nat) :
    (Parser.rule numberRule).Enters (setting tokens) cursor [("number", cursor)] := by
  have hliteral : (Parser.alt (.token standardVocabulary.hex)
      (.token standardVocabulary.decimal)).EntersNothing (setting tokens) :=
    (token_entersNothing tokens _).alt (token_entersNothing tokens _)
  exact .rule rfl ((Parser.Enters.of_entersNothing hliteral cursor).map Expr.number)

/-- An atom enters itself and a number at the cursor, and all else behind it and, if it is read,
before its end. -/
inductive EntersAtom (tokens : TokenSequence) (cursor : Nat) : Prop where
  | intro {inner : List (String × Nat)} {stop : Nat} (hlt : cursor < stop)
      (hsize : stop ≤ tokens.size + 1) (hspread : Spread (cursor + 1) stop inner)
      (hbefore : ∀ {e next reach}, (Parser.rule atomRule).Answers (setting tokens) cursor
        (.matched e next) reach → stop ≤ next)
      (henters : (Parser.rule atomRule).Enters (setting tokens) cursor
        (("atom", cursor) :: ("number", cursor) :: inner))

/-- An expression enters rules from the cursor on, before its end if it is read completely. -/
inductive EntersExpr (tokens : TokenSequence) (cursor : Nat) : Prop where
  | intro {entries : List (String × Nat)} {stop : Nat} (hlt : cursor < stop)
      (hsize : stop ≤ tokens.size + 1) (hspread : Spread cursor stop entries)
      (hbefore : ∀ {e next reach}, (Parser.rule exprRule).Answers (setting tokens) cursor
        (.matched e next) reach →
        (∀ operator, ahead tokens next ≠ some (.operator operator)) → stop ≤ next)
      (henters : (Parser.rule exprRule).Enters (setting tokens) cursor entries)

section Rules

variable (hreadable : ∀ token ∈ tokens.tokens, Readable token)

include hreadable

theorem entersAtom_of_number {n : Int64} (hcursor : cursor ≤ tokens.size)
    (hahead : ahead tokens cursor = some (.number n)) : EntersAtom tokens cursor := by
  have hnumber := answers_number hreadable hahead
  refine .intro (Nat.lt_succ_self cursor) (Nat.succ_le_succ hcursor) (.nil _ _) ?_
    (.rule rfl ((number_enters tokens cursor).alt _ hnumber))
  intro e next reach hanswers
  have hanswers' : (Parser.rule atomRule).Answers (setting tokens) cursor _ _ :=
    .rule rfl (.alt _ hnumber)
  obtain ⟨⟩ := (hanswers.unique hanswers').1
  exact Nat.succ_le_succ (le_settled tokens cursor)

theorem entersAtom_of_stuck (hcursor : cursor ≤ tokens.size)
    (hnumber : ∀ n, ahead tokens cursor ≠ some (.number n))
    (hopening : ahead tokens cursor ≠ some .opening) : EntersAtom tokens cursor := by
  have hfailed := (answers_token_iff fun _ => terminal?_opening_iff).2 fun _ => hopening
  have hparens := ((Parser.Enters.of_entersNothing (token_entersNothing tokens
    standardVocabulary.opening) cursor).ignoreThen_of_failed (Parser.rule exprRule)
      hfailed).thenIgnore (token_entersNothing tokens standardVocabulary.closing)
  refine .intro (Nat.lt_succ_self cursor) (Nat.succ_le_succ hcursor) (.nil _ _) ?_
    (.rule rfl ((number_enters tokens cursor).alt_of_failed
      (answers_number_of_failed hreadable hnumber) hparens))
  intro e next reach hanswers
  exact nomatch (hanswers.unique (answers_atom_of_failed hreadable hnumber hopening)).1

/-- The parenthesis closes only behind an expression that is read completely. -/
theorem ends_of_parens (hahead : ahead tokens cursor = some .opening)
    (hinner : ReadsExpr tokens (settled tokens cursor + 1)) {e : Expr} {next reach : Nat}
    (hanswers : (Parser.rule atomRule).Answers (setting tokens) cursor (.matched e next) reach) :
    ∃ e' next' reach', (Parser.rule exprRule).Answers (setting tokens) (settled tokens cursor + 1)
      (.matched e' next') reach' ∧
      (∀ operator, ahead tokens next' ≠ some (.operator operator)) ∧ next' ≤ next := by
  cases hinner with
  | stuck hstuck hinner =>
    exact nomatch (hanswers.unique (answers_parens_of_failed hreadable hahead hinner)).1
  | @gaveBack e' next' stop operator hstuck hnext hoperator hinner =>
    have hclosing := (answers_token_iff fun _ => terminal?_closing_iff).2 fun _ hclosing => by
      rw [hoperator] at hclosing
      cases hclosing
    exact nomatch (hanswers.unique (answers_parens hreadable hahead hinner hclosing)).1
  | @reads e' next' hlt hsize hend hderives hinner =>
    by_cases hclosed : ahead tokens next' = some .closing
    · have hclosing := (answers_token_iff fun _ => terminal?_closing_iff).1 () hclosed
      obtain ⟨⟩ := (hanswers.unique (answers_parens hreadable hahead hinner hclosing)).1
      exact ⟨_, next', _, hinner, hend, (le_settled tokens next').trans (Nat.le_succ _)⟩
    · have hclosing := (answers_token_iff fun _ => terminal?_closing_iff).2 fun _ => hclosed
      exact nomatch (hanswers.unique (answers_parens hreadable hahead hinner hclosing)).1

theorem entersAtom_of_opening (hahead : ahead tokens cursor = some .opening)
    (hinner : EntersExpr tokens (settled tokens cursor + 1)) : EntersAtom tokens cursor := by
  obtain ⟨_, -, -, hlast, -⟩ := exists_token_of_ahead hahead
  have hle := le_settled tokens cursor
  obtain ⟨hlt, hsize, hspread, hbefore, henters⟩ := hinner
  have hopening := (answers_token_iff fun _ => terminal?_opening_iff).1 () hahead
  have hnumber := answers_number_of_failed hreadable fun n hn => by
    rw [hahead] at hn
    cases hn
  have hparens := ((Parser.Enters.of_entersNothing (token_entersNothing tokens
    standardVocabulary.opening) cursor).ignoreThen hopening henters).thenIgnore
      (token_entersNothing tokens standardVocabulary.closing)
  refine .intro (by omega) hsize (hspread.mono (by omega) (Nat.le_refl _)) ?_
    (.rule rfl ((number_enters tokens cursor).alt_of_failed hnumber hparens))
  intro e next reach hanswers
  obtain ⟨e', next', reach', hexpr, hend, hnext⟩ :=
    ends_of_parens hreadable hahead (readsExpr hreadable _ hlast) hanswers
  exact (hbefore hexpr hend).trans hnext

/-- **One step of atoms**, from what expressions enter further on. -/
theorem entersAtom_step (hcursor : cursor ≤ tokens.size)
    (hlater : ∀ later, cursor < later → later ≤ tokens.size → EntersExpr tokens later) :
    EntersAtom tokens cursor := by
  by_cases hnumber : ∃ n, ahead tokens cursor = some (.number n)
  · obtain ⟨n, hahead⟩ := hnumber
    exact entersAtom_of_number hreadable hcursor hahead
  by_cases hopening : ahead tokens cursor = some .opening
  · obtain ⟨_, -, -, hlt, -⟩ := exists_token_of_ahead hopening
    have hle := le_settled tokens cursor
    exact entersAtom_of_opening hreadable hopening (hlater _ (by omega) hlt)
  · exact entersAtom_of_stuck hreadable hcursor (fun n hn => hnumber ⟨n, hn⟩) hopening

omit hreadable in
/-- Behind an operator, only an expression that is read completely ends one that is. -/
theorem right_of_binary {l : Expr} {next reach : Nat} {operator : Operator}
    (hatom : (Parser.rule atomRule).Answers (setting tokens) cursor (.matched l next) reach)
    (hahead : ahead tokens next = some (.operator operator))
    (hright : ReadsExpr tokens (settled tokens next + 1)) {e : Expr} {next' reach' : Nat}
    (hanswers : (Parser.rule exprRule).Answers (setting tokens) cursor (.matched e next') reach')
    (hend : ∀ operator, ahead tokens next' ≠ some (.operator operator)) :
    ∃ r reach'', (Parser.rule exprRule).Answers (setting tokens) (settled tokens next + 1)
      (.matched r next') reach'' := by
  cases hright with
  | reads _ _ _ _ hright =>
    obtain ⟨⟩ := (hanswers.unique (answers_binary hatom hahead hright)).1
    exact ⟨_, _, hright⟩
  | stuck _ hright =>
    obtain ⟨⟩ := (hanswers.unique (answers_expr_of_right_failed hatom hahead hright)).1
    exact absurd hahead (hend operator)
  | gaveBack _ _ hahead' hright =>
    obtain ⟨⟩ := (hanswers.unique (answers_binary hatom hahead hright)).1
    exact absurd hahead' (hend _)

/-- **One step of expressions**, from the atom there and what expressions enter further on. -/
theorem entersExpr_step (hcursor : cursor ≤ tokens.size)
    (hlater : ∀ later, cursor < later → later ≤ tokens.size → EntersExpr tokens later) :
    EntersExpr tokens cursor := by
  obtain ⟨hlt, hsize, hspread, hbefore, henters⟩ := entersAtom_step hreadable hcursor hlater
  have hown := hspread.rules hlt
  have hatom : ReadsAtom tokens cursor :=
    readsAtom_step hreadable hcursor fun later _ hsize => readsExpr hreadable later hsize
  cases hatom with
  | stuck _ hanswers =>
    refine .intro hlt hsize hown ?_ (.rule rfl ((henters.seq_of_failed _ hanswers).map _))
    intro e next reach hmatched
    exact nomatch (hmatched.unique (answers_expr_of_failed hanswers)).1
  | @reads l next _ _ _ _ _ hanswers =>
    have hstop := hbefore hanswers
    have hle := le_settled tokens next
    have hoperator := Parser.Enters.of_entersNothing
      (token_entersNothing tokens standardVocabulary.operator) next
    by_cases hahead : ∃ operator, ahead tokens next = some (.operator operator)
    · obtain ⟨operator, hahead⟩ := hahead
      obtain ⟨_, -, -, hlast, -⟩ := exists_token_of_ahead hahead
      obtain ⟨hlt', hsize', hspread', hbefore', henters'⟩ :=
        hlater (settled tokens next + 1) (by omega) hlast
      have hmatched := (answers_token_iff fun _ => terminal?_operator_iff).1 operator hahead
      refine .intro (by omega) hsize' ((hown.mono (Nat.le_refl _) (by omega)).append hspread'
        (by omega) (by omega)) ?_ (.rule rfl ((henters.seq hanswers
          (hoperator.seq hmatched henters').optional).map _))
      intro e next' reach' hexpr hend
      obtain ⟨r, reach'', hright⟩ :=
        right_of_binary hanswers hahead (readsExpr hreadable _ hlast) hexpr hend
      exact hbefore' hright hend
    · have hnone : ∀ operator, ahead tokens next ≠ some (.operator operator) :=
        fun operator h => hahead ⟨operator, h⟩
      have hrefused := (answers_token_iff fun _ => terminal?_operator_iff).2 hnone
      have henters' := henters.seq hanswers (hoperator.seq_of_failed (Parser.rule exprRule)
        hrefused).optional
      rw [List.append_nil] at henters'
      refine .intro hlt hsize hown ?_ (.rule rfl (henters'.map _))
      intro e next' reach' hexpr _
      obtain ⟨⟩ := (hexpr.unique (answers_expr_of_atom hanswers hnone)).1
      exact hstop

/-- **All cursors.** What an expression enters further on settles what it enters from a cursor. -/
theorem entersExpr (cursor : Nat) (hcursor : cursor ≤ tokens.size) : EntersExpr tokens cursor :=
  entersExpr_step hreadable hcursor fun later _ hsize => entersExpr later hsize
termination_by tokens.size - cursor

end Rules

/-! ### Traces -/

theorem tokenize_entries (calculator : Calculator) (source : String) :
    (calculator.tokenize source).events.filterMap Event.entry? = [] := by
  simp only [tokenize, Lexicon.tracedScan, bind, pure]
  split <;> rfl

theorem parse_entries {source : String} (htokens : (standard.tokenize source).value = .ok tokens) :
    (standard.parse source).events.filterMap Event.entry? =
      ((session tokens).parseAll (.rule exprRule) (some standard.skip)).events.filterMap
        Event.entry? := by
  have hparsing : (Traced.emit (.parsing source.utf8ByteSize)).events.filterMap Event.entry? = [] :=
    rfl
  simp only [parse, bind, pure, htokens, List.filterMap_append, tokenize_entries, hparsing,
    List.append_nil, List.nil_append]
  rfl

theorem spread_parse {source : String} (htokens : (standard.tokenize source).value = .ok tokens) :
    Spread 0 (tokens.size + 1) ((standard.parse source).events.filterMap Event.entry?) := by
  have hreadable : ∀ token ∈ tokens.tokens, Readable token := by
    rw [tokenize_value] at htokens
    exact readable_of_scan htokens
  have hhalts : (Parser.rule exprRule).Halts (setting tokens) 0 := by
    cases readsExpr hreadable 0 (Nat.zero_le _) with
    | reads _ _ _ _ hanswers => exact hanswers.halts (by simp)
    | stuck _ hanswers => exact hanswers.halts (by simp)
    | gaveBack _ _ _ hanswers => exact hanswers.halts (by simp)
  obtain ⟨-, hsize, hspread, -, henters⟩ := entersExpr hreadable 0 (Nat.zero_le _)
  rw [parse_entries htokens, Session.parseAll_entries_of_enters (isLibrary_grammar tokens)
    isLibrary_expr isLibrary_skip hhalts (skipFrom_enters tokens) henters]
  exact hspread.mono (Nat.le_refl 0) hsize

/-- **No re-parsing.** Whether or not the tokens of a source are an expression, each rule is entered
at most once at each position, so there are at most three entries for each token and the end. -/
theorem parse_enters_once :
    ∃ calculator, Calculator.new = .ok calculator ∧
      ∀ source tokens, (calculator.tokenize source).value = .ok tokens →
        (∀ name position,
          (calculator.parse source).events.count (.enteredRule name position) ≤ 1) ∧
        ((calculator.parse source).events.filterMap Event.entry?).length ≤
          3 * (tokens.size + 1) := by
  refine ⟨standard, new_eq_standard, fun source tokens htokens => ?_⟩
  have hspread := spread_parse htokens
  refine ⟨fun name position => ?_, hspread.length_le⟩
  calc (standard.parse source).events.count (.enteredRule name position)
      ≤ ((standard.parse source).events.filterMap Event.entry?).count (name, position) := by
        rw [List.count_filterMap, List.count]
        refine List.countP_mono_left fun event _ hevent => ?_
        rw [beq_iff_eq] at hevent
        rw [hevent, Event.entry?, beq_self_eq_true]
    _ ≤ 1 := List.nodup_iff_count_le_one.1 hspread.nodup (name, position)

end Calculator

end TokenGrammar
