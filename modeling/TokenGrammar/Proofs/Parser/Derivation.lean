import TokenGrammar.Proofs.Parser.Trials

/-!
# Parsers without order

Read as a grammar, a parser says which values belong to which lists of tokens: alternatives have no
order, a repetition may stop anywhere, and nothing is excluded. Ordered matching is sound for this
reading. The value of a match belongs to the tokens it went over, less the blocks that were skipped
in front of the tokens it took; attempts that were given up leave no trace in it.
-/

namespace TokenGrammar

/-! ### The reading -/

/-- The lists of tokens that a parser stands for, and their values. -/
inductive Parser.Derives {ρ : Nat → Type} (grammar : Grammar (RuleBody ρ)) :
    {α : Type} → Parser ρ α → List Token → α → Prop where
  | primitive {α : Type} {wanted : Primitive α} {token : Token} {value : α}
      (haccepts : wanted.accepts token = true) (hdecode : wanted.kind.decode token = some value) :
      Derives grammar (.primitive wanted) [token] value
  | seq {α β : Type} {first : Parser ρ α} {second : Parser ρ β} {left right : List Token} {a : α}
      {b : β} (hfirst : Derives grammar first left a) (hsecond : Derives grammar second right b) :
      Derives grammar (.seq first second) (left ++ right) (a, b)
  | thenIgnore {α β : Type} {first : Parser ρ α} {second : Parser ρ β} {left right : List Token}
      {a : α} {b : β} (hfirst : Derives grammar first left a)
      (hsecond : Derives grammar second right b) :
      Derives grammar (.thenIgnore first second) (left ++ right) a
  | ignoreThen {α β : Type} {first : Parser ρ α} {second : Parser ρ β} {left right : List Token}
      {a : α} {b : β} (hfirst : Derives grammar first left a)
      (hsecond : Derives grammar second right b) :
      Derives grammar (.ignoreThen first second) (left ++ right) b
  | altFirst {α : Type} {first second : Parser ρ α} {tokens : List Token} {value : α}
      (hfirst : Derives grammar first tokens value) :
      Derives grammar (.alt first second) tokens value
  | altSecond {α : Type} {first second : Parser ρ α} {tokens : List Token} {value : α}
      (hsecond : Derives grammar second tokens value) :
      Derives grammar (.alt first second) tokens value
  | eitherFirst {α β : Type} {first : Parser ρ α} {second : Parser ρ β} {tokens : List Token}
      {a : α} (hfirst : Derives grammar first tokens a) :
      Derives grammar (.either first second) tokens (.inl a)
  | eitherSecond {α β : Type} {first : Parser ρ α} {second : Parser ρ β} {tokens : List Token}
      {b : β} (hsecond : Derives grammar second tokens b) :
      Derives grammar (.either first second) tokens (.inr b)
  | manyNone {α : Type} {item : Parser ρ α} : Derives grammar (.many item) [] []
  | manyMore {α : Type} {item : Parser ρ α} {left right : List Token} {value : α}
      {values : List α} (hitem : Derives grammar item left value)
      (hrest : Derives grammar (.many item) right values) :
      Derives grammar (.many item) (left ++ right) (value :: values)
  | many1 {α : Type} {item : Parser ρ α} {tokens : List Token} {values : List α}
      (hmany : Derives grammar (.many item) tokens values) (hvalues : values ≠ []) :
      Derives grammar (.many1 item) tokens values
  | exclude {α β : Type} {inner : Parser ρ α} {excluded : Parser ρ β} {tokens : List Token}
      {value : α} (hinner : Derives grammar inner tokens value) :
      Derives grammar (.exclude inner excluded) tokens value
  | discard {α : Type} {inner : Parser ρ α} {tokens : List Token} {value : α}
      (hinner : Derives grammar inner tokens value) : Derives grammar (.discard inner) tokens ()
  | optionalNone {α : Type} {inner : Parser ρ α} : Derives grammar (.optional inner) [] none
  | optionalSome {α : Type} {inner : Parser ρ α} {tokens : List Token} {value : α}
      (hinner : Derives grammar inner tokens value) :
      Derives grammar (.optional inner) tokens (some value)
  | map {α β : Type} {inner : Parser ρ α} {tokens : List Token} {value : α} (f : α → β)
      (hinner : Derives grammar inner tokens value) :
      Derives grammar (.map f inner) tokens (f value)
  | rule {handle : Rule} {body : Parser ρ (ρ handle.output)} {tokens : List Token}
      {value : ρ handle.output}
      (hbody : grammar.body? handle = some body) (hderives : Derives grammar body tokens value) :
      Derives grammar (.rule handle) tokens value

namespace Setting

variable {ρ : Nat → Type} {setting : Setting ρ} {cursor middle next : Nat}
  {tokens tokens' kept kept' : List Token}

/-- From one cursor to another: the tokens there, and those that are kept. What is not kept are
blocks of skipped tokens, each in front of a token that is. -/
inductive Strips (setting : Setting ρ) : Nat → Nat → List Token → List Token → Prop where
  | done (cursor : Nat) : Strips setting cursor cursor [] []
  | keep {cursor position next : Nat} {token : Token} {tokens kept : List Token}
      (hskips : setting.Skips cursor position) (htoken : setting.tokenAt position = some token)
      (hrest : Strips setting (position + 1) next tokens kept) :
      Strips setting cursor next
        ((setting.tokens.tokens.extract cursor position).toList ++ token :: tokens) (token :: kept)

theorem Skips.le (hskips : setting.Skips cursor next) : cursor ≤ next := by
  induction hskips with
  | refl => exact Nat.le_refl cursor
  | tail _ hstep ih => exact Nat.le_trans ih (Nat.le_of_lt hstep.1)

theorem Skips.eq_of_none (hskip : setting.skip? = none) (hskips : setting.Skips cursor next) :
    cursor = next := by
  induction hskips with
  | refl => rfl
  | tail _ hstep =>
    obtain ⟨-, skip, hsome, -⟩ := hstep
    rw [hskip] at hsome
    cases hsome

theorem exists_getElem_of_tokenAt {token : Token} (htoken : setting.tokenAt cursor = some token) :
    ∃ hlt : cursor < setting.tokens.tokens.size, setting.tokens.tokens[cursor] = token := by
  unfold tokenAt at htoken
  split at htoken
  · exact Array.getElem?_eq_some_iff.1 htoken
  · cases htoken

namespace Strips

theorem trans (h : setting.Strips cursor middle tokens kept)
    (h' : setting.Strips middle next tokens' kept') :
    setting.Strips cursor next (tokens ++ tokens') (kept ++ kept') := by
  induction h with
  | done => exact h'
  | keep hskips htoken _ ih =>
    rw [List.append_assoc, List.cons_append, List.cons_append]
    exact .keep hskips htoken (ih h')

theorem le (h : setting.Strips cursor next tokens kept) : cursor ≤ next := by
  induction h with
  | done cursor => exact Nat.le_refl cursor
  | keep hskips _ _ ih =>
    have hle := hskips.le
    omega

/-- The tokens stripped are those of the sequence between the two cursors. -/
theorem eq_extract (h : setting.Strips cursor next tokens kept) :
    tokens = (setting.tokens.tokens.extract cursor next).toList := by
  induction h with
  | done cursor => simp
  | @keep cursor position next token tokens kept hskips htoken hrest ih =>
    obtain ⟨hlt, rfl⟩ := exists_getElem_of_tokenAt htoken
    have hle : cursor ≤ position := hskips.le
    have hle' : position + 1 ≤ next := hrest.le
    have hblock : setting.tokens.tokens.extract cursor (position + 1) =
        (setting.tokens.tokens.extract cursor position).push setting.tokens.tokens[position] :=
      Array.extract_succ_right (by omega) hlt
    have hwhole : setting.tokens.tokens.extract cursor next =
        setting.tokens.tokens.extract cursor (position + 1) ++
          setting.tokens.tokens.extract (position + 1) next := by
      rw [Array.extract_append_extract]
      congr 1 <;> omega
    rw [hwhole, hblock, ih, Array.toList_append, Array.toList_push, List.append_assoc,
      List.singleton_append]

theorem kept_eq_of_none (hskip : setting.skip? = none)
    (h : setting.Strips cursor next tokens kept) : kept = tokens := by
  induction h with
  | done => rfl
  | keep hskips _ _ ih =>
    rw [hskips.eq_of_none hskip, ih]
    simp

end Strips

end Setting

/-! ### Matches -/

namespace Parser

variable {ρ : Nat → Type} {α β γ : Type} {setting : Setting ρ} {cursor middle next : Nat}

/-- A value with a derivation from the tokens between two cursors, less skipped blocks. -/
def Explains (setting : Setting ρ) (parser : Parser ρ α) (cursor : Nat) (value : α) (next : Nat) :
    Prop :=
  ∃ tokens kept, setting.Strips cursor next tokens kept ∧ Derives setting.grammar parser kept value

namespace Explains

variable {first : Parser ρ α} {second : Parser ρ β} {parser : Parser ρ γ} {a : α} {b : β} {c : γ}

theorem imp (h : first.Explains setting cursor a next)
    (hderives : ∀ {kept}, Derives setting.grammar first kept a →
      Derives setting.grammar parser kept c) :
    parser.Explains setting cursor c next := by
  obtain ⟨tokens, kept, hstrips, hfirst⟩ := h
  exact ⟨tokens, kept, hstrips, hderives hfirst⟩

theorem join (h : first.Explains setting cursor a middle)
    (h' : second.Explains setting middle b next)
    (hderives : ∀ {left right}, Derives setting.grammar first left a →
      Derives setting.grammar second right b → Derives setting.grammar parser (left ++ right) c) :
    parser.Explains setting cursor c next := by
  obtain ⟨tokens, kept, hstrips, hfirst⟩ := h
  obtain ⟨tokens', kept', hstrips', hsecond⟩ := h'
  exact ⟨tokens ++ tokens', kept ++ kept', hstrips.trans hstrips', hderives hfirst hsecond⟩

theorem stay (hderives : Derives setting.grammar parser [] c) :
    parser.Explains setting cursor c cursor :=
  ⟨[], [], .done cursor, hderives⟩

theorem le (h : first.Explains setting cursor a next) : cursor ≤ next := by
  obtain ⟨tokens, kept, hstrips, -⟩ := h
  exact hstrips.le

/-- The last item of a repetition need not advance. -/
theorem many_last {item : Parser ρ α} (h : item.Explains setting cursor a next)
    (hstays : ¬ cursor < next) : (many item).Explains setting cursor [a] cursor := by
  obtain rfl : next = cursor := Nat.le_antisymm (Nat.le_of_not_lt hstays) h.le
  exact h.join (stay .manyNone) .manyMore

end Explains

theorem primitive_explains {wanted : Primitive α} {value : α}
    (hyields : (primitive wanted).Yields setting cursor (.matched value next)) :
    (primitive wanted).Explains setting cursor value next := by
  obtain ⟨position, hskips, rfl, token, htoken, hdecode⟩ := hyields.primitive
  unfold Primitive.decode at hdecode
  split at hdecode
  · next haccepts => exact ⟨_, _, .keep hskips htoken (.done _), .primitive haccepts hdecode⟩
  · cases hdecode

/-- **One step.** A parser's matches have derivations if those of the parsers it calls do. -/
theorem run_succ_explains {fuel : Nat} {parser : Parser ρ α} (hparser : parser.IsLibrary)
    (hcalls : ∀ {γ : Type} {called : Parser ρ γ}, Calls setting.grammar parser called →
      ∀ cursor, (called.run fuel setting cursor).Ensures (called.Explains setting cursor))
    (cursor : Nat) :
    (parser.run (fuel + 1) setting cursor).Ensures (parser.Explains setting cursor) := by
  cases parser with
  | primitive wanted =>
    exact (run_ensures_yields (fuel + 1) setting (.primitive wanted) cursor).mono
      fun _ _ => primitive_explains
  | seq a b =>
    rw [run_seq]
    refine (hcalls (.seqFirst a b) cursor).andThen fun _ middle hleft => ?_
    exact (hcalls (.seqSecond a b) middle).map _ fun _ _ hright => hleft.join hright .seq
  | thenIgnore a b =>
    rw [run_thenIgnore]
    refine (hcalls (.thenIgnoreFirst a b) cursor).andThen fun _ middle hleft => ?_
    exact (hcalls (.thenIgnoreSecond a b) middle).map _ fun _ _ hright =>
      hleft.join hright .thenIgnore
  | ignoreThen a b =>
    rw [run_ignoreThen]
    refine (hcalls (.ignoreThenFirst a b) cursor).andThen fun _ middle hleft => ?_
    exact (hcalls (.ignoreThenSecond a b) middle).mono fun _ _ hright =>
      hleft.join hright .ignoreThen
  | alt a b =>
    rw [run_alt]
    refine Attempt.Ensures.orElse ?_ ?_
    · exact (hcalls (.altFirst a b) cursor).mono fun _ _ h => h.imp .altFirst
    · exact (hcalls (.altSecond a b) cursor).mono fun _ _ h => h.imp .altSecond
  | either a b =>
    rw [run_either]
    refine Attempt.Ensures.orElse ?_ ?_
    · exact (hcalls (.eitherFirst a b) cursor).map _ fun _ _ h => h.imp .eitherFirst
    · exact (hcalls (.eitherSecond a b) cursor).map _ fun _ _ h => h.imp .eitherSecond
  | many item =>
    rw [run_many]
    refine (hcalls (.manyItem item) cursor).resume (fun value next hitem => ?_)
      (.matched (.stay .manyNone))
    by_cases hadvance : cursor < next
    · rw [if_pos hadvance]
      exact (hcalls (.manyRest item) next).map _ fun _ _ hrest => hitem.join hrest .manyMore
    · rw [if_neg hadvance]
      exact .matched (hitem.many_last hadvance)
  | many1 item =>
    rw [run_many1]
    refine (hcalls (.many1 item) cursor).andThen fun values next hvalues => ?_
    split
    · exact .failed
    · next hnonempty =>
      have hne : values ≠ [] := mt List.isEmpty_iff.2 hnonempty
      exact .matched (hvalues.imp (.many1 · hne))
  | exclude a b =>
    rw [run_exclude]
    refine (hcalls (.excludeInner a b) cursor).andThen fun value next hinner => ?_
    exact (hcalls (.excludeExcluded a b) cursor).resume (fun _ _ _ => .failed)
      (.matched (hinner.imp .exclude))
  | discard a =>
    rw [run_discard]
    exact (hcalls (.discard a) cursor).map _ fun _ _ h => h.imp .discard
  | optional a =>
    rw [run_optional]
    refine Attempt.Ensures.orElse ?_ (.matched (.stay .optionalNone))
    exact (hcalls (.optional a) cursor).map _ fun _ _ h => h.imp .optionalSome
  | map f a =>
    rw [run_map]
    exact (hcalls (.map f a) cursor).map _ fun _ _ h => h.imp (.map f)
  | rule handle =>
    rw [run_rule]
    cases hbody : setting.grammar.body? handle with
    | none => exact .after _ .failed
    | some body =>
      refine .after _ ((hcalls (.rule hbody) cursor).resume (fun value next h => ?_) ?_)
      · exact .after _ (.matched (h.imp (.rule hbody)))
      · exact .after _ .failed
  | unskipped a => exact hparser.elim
  | custom act => exact hparser.elim

/-- **Whole runs.** Every match of a library parser has a derivation. -/
theorem run_explains (hgrammar : setting.grammar.IsLibrary) (fuel : Nat) {parser : Parser ρ α}
    (hparser : parser.IsLibrary) (cursor : Nat) :
    (parser.run fuel setting cursor).Ensures (parser.Explains setting cursor) := by
  induction fuel generalizing α parser cursor with
  | zero => exact .exhausted
  | succ fuel ih =>
    exact run_succ_explains hparser (fun hcalls => ih (hcalls.isLibrary hgrammar hparser)) cursor

end Parser

namespace Session

variable {ρ : Nat → Type} {α : Type}

/-- **Ordered matching is sound for the grammar without order.** Where a library parser matches, it
does so inside the window, and its value has a derivation from the tokens between its two cursors
that are kept. Left out are only blocks in front of tokens that the derivation uses, each a chain of
matches of the skip parser, and nothing at all where there is no skip parser. -/
theorem match_derives (session : Session ρ) (parser : Parser ρ α) (skip? : Option (Parser ρ Unit))
    (finish cursor : Nat) (hgrammar : session.grammar.IsLibrary) (hparser : parser.IsLibrary)
    (hskip : ∀ skip, skip? = some skip → skip.IsLibrary) {value : α} {next : Nat}
    (hmatch : parser.Yields (Setting.new session.tokens finish session.grammar skip?) cursor
      (.matched value next)) :
    let setting := Setting.new session.tokens finish session.grammar skip?
    let tokens := (session.tokens.tokens.extract cursor next).toList
    cursor ≤ next ∧ next ≤ max cursor (min finish session.tokens.size) ∧
      ∃ kept, setting.Strips cursor next tokens kept ∧
        Parser.Derives session.grammar parser kept value ∧ (skip? = none → kept = tokens) := by
  intro setting tokens
  obtain ⟨hle, hlimit⟩ := hmatch.within ⟨hgrammar, hskip⟩ hparser
  obtain ⟨fuel, progress, hrun⟩ := hmatch
  have hexplains : (parser.run fuel setting cursor).Ensures (parser.Explains setting cursor) :=
    Parser.run_explains hgrammar fuel hparser cursor
  obtain ⟨stripped, kept, hstrips, hderives⟩ := hexplains progress value next hrun
  obtain rfl : stripped = tokens := hstrips.eq_extract
  exact ⟨hle, hlimit, kept, hstrips, hderives, fun hnone => hstrips.kept_eq_of_none hnone⟩

/-- A letter and a digit where two letters were tried first. The blank between them is skipped and
left out of the derivation. -/
theorem match_derives_letter_before_digit :
    let letter : Kind String := ⟨0, "letter", some⟩
    let blank : Kind Unit := ⟨1, "blank", fun _ => some ()⟩
    let digit : Kind String := ⟨2, "digit", some⟩
    let letters : Parser String (String × String) :=
      .seq (.rule ⟨1, 0, "letter", 0⟩) (.rule ⟨1, 0, "letter", 0⟩)
    let pair : Parser String (String × String) :=
      .alt letters (.seq (.rule ⟨1, 0, "letter", 0⟩) (.token digit))
    let a : Token := ⟨0, "letter", "a", .ofOffsets 0 1⟩
    let gap : Token := ⟨1, "blank", " ", .ofOffsets 1 2⟩
    let seven : Token := ⟨2, "digit", "7", .ofOffsets 2 3⟩
    let session : Session String := ⟨⟨1, [⟨"letter", 0, .token letter⟩]⟩, ⟨#[a, gap, seven], 3⟩⟩
    let setting := Setting.new session.tokens 9 session.grammar (some (.token blank))
    pair.Yields setting 0 (.matched ("a", "7") 3) ∧
      ∃ kept, setting.Strips 0 3 [a, gap, seven] kept ∧
        Parser.Derives session.grammar pair kept ("a", "7") := by
  intro letter blank digit letters pair a gap seven session setting
  have hmatch : pair.Yields setting 0 (.matched ("a", "7") 3) := ⟨8, ⟨0, []⟩, by rfl⟩
  have hgrammar : session.grammar.IsLibrary := by
    rintro rule (_ | ⟨_, ⟨⟩⟩)
    trivial
  have hparser : pair.IsLibrary := ⟨⟨trivial, trivial⟩, trivial, trivial⟩
  have hskip : (Parser.token blank : Parser String Unit).IsLibrary := trivial
  obtain ⟨-, -, kept, hstrips, hderives, -⟩ := match_derives session pair (some (.token blank)) 9 0
    hgrammar hparser (fun _ => hskip.of_some_eq) hmatch
  exact ⟨hmatch, kept, hstrips, hderives⟩

end Session

end TokenGrammar
