import TokenGrammar.Proofs.Session

/-!
# Skipping and filtering

Passing over tokens of a kind while parsing comes to the same as taking these tokens out first. A
match over the whole sequence stands at a cursor where a match over the filtered one stands at its
rank. Cursors of one rank differ in the tokens to pass over between them, so it matters that a
match either stays where it is or takes a significant token: repetition stops on both sides at
once.
-/

namespace TokenGrammar

/-- A sequence without the tokens passed over. -/
def TokenSequence.without (passed : Token → Bool) (sequence : TokenSequence) : TokenSequence :=
  ⟨(significant passed sequence.tokens.toList).toArray, sequence.sourceSize⟩

/-- How many tokens that are not passed over lie before a position. -/
def TokenSequence.rank (passed : Token → Bool) (sequence : TokenSequence) (position : Nat) : Nat :=
  TokenGrammar.rank passed sequence.tokens.toList position

def Session.without {ρ : Nat → Type} (passed : Token → Bool) (session : Session ρ) : Session ρ :=
  { session with tokens := session.tokens.without passed }

def Outcome.relocate {α : Type} (move : Nat → Nat) : Outcome α → Outcome α
  | .matched value next => .matched value (move next)
  | .failed => .failed
  | .exhausted => .exhausted

namespace Correspondence

def flip (R : Correspondence) : Correspondence where
  cursor left right := R.cursor right left
  progress p q := R.progress q p
  enteredRule := R.enteredRule
  leftRule := R.leftRule
  unknownRule := R.unknownRule

def ranked (passed : Token → Bool) (tokens : List Token) : Correspondence where
  cursor left right := left ≤ tokens.length ∧ right = rank passed tokens left
  progress _ _ := True
  enteredRule := fun _ _ _ => trivial
  leftRule := fun _ _ _ _ => trivial
  unknownRule := fun _ _ => trivial

section Gives

variable {R : Correspondence} {α : Type} {left right left' right' reach reach' : Nat}
  {a b : Attempt α}

theorem related_of_gives_failed (hprogress : ∀ p q, R.progress p q)
    (ha : a.Gives .failed reach) (hb : b.Gives .failed reach') : R.Related left right a b := by
  intro p q _
  obtain ⟨p', hp, -⟩ := ha.exists_progress p
  obtain ⟨q', hq, -⟩ := hb.exists_progress q
  rw [hp, hq]
  exact .failed (hprogress _ _)

theorem related_of_gives_matched (hprogress : ∀ p q, R.progress p q) {value : α}
    (ha : a.Gives (.matched value left') reach) (hb : b.Gives (.matched value right') reach')
    (hcursor : R.cursor left' right') (hmove : MoveTogether left right left' right') :
    R.Related left right a b := by
  intro p q _
  obtain ⟨p', hp, -⟩ := ha.exists_progress p
  obtain ⟨q', hq, -⟩ := hb.exists_progress q
  rw [hp, hq]
  exact .matched value hcursor hmove (hprogress _ _)

end Gives

end Correspondence

/-! ### Runs that skip beside runs over the filtered tokens -/

/-- One setting passes over tokens and the other sees the same tokens without them. -/
structure Setting.Filters {ρ : Nat → Type} (passed : Token → Bool) (skipping filtered : Setting ρ) :
    Prop where
  library : skipping.IsLibrary
  passes : skipping.PassesOver passed
  grammar : filtered.grammar = skipping.grammar
  skip : filtered.skip? = none
  visible : filtered.visible = significant passed skipping.visible

namespace Parser

variable {ρ : Nat → Type} {α : Type} {passed : Token → Bool} {skipping filtered : Setting ρ}
  {left : Nat}

theorem take_settle_cases (hfilters : Setting.Filters passed skipping filtered)
    (wanted : Primitive α) (hleft : left ≤ skipping.visible.length) :
    (∃ value next, left < next ∧ next ≤ skipping.visible.length ∧
      rank passed skipping.visible next = rank passed skipping.visible left + 1 ∧
      (take skipping wanted (settle passed skipping.visible left)).Gives (.matched value next) 0 ∧
      (take filtered wanted (rank passed skipping.visible left)).Gives
        (.matched value (rank passed skipping.visible next)) 0) ∨
    (take skipping wanted (settle passed skipping.visible left)).Gives .failed
        (settle passed skipping.visible left) ∧
      (take filtered wanted (rank passed skipping.visible left)).Gives .failed
        (rank passed skipping.visible left) := by
  have hget : filtered.visible[rank passed skipping.visible left]? =
      skipping.visible[settle passed skipping.visible left]? := by
    rw [hfilters.visible, getElem?_significant_rank hleft]
  by_cases hdecodes : ∃ token value, skipping.visible[settle passed skipping.visible left]? =
      some token ∧ wanted.decode token = some value
  · obtain ⟨token, value, htoken, hdecode⟩ := hdecodes
    obtain ⟨hlt, -⟩ := List.getElem?_eq_some_iff.1 htoken
    have hle := le_settle passed skipping.visible left
    have hrank := rank_settle_succ htoken
    refine Or.inl ⟨value, settle passed skipping.visible left + 1, by omega, by omega, hrank,
      take_gives_matched htoken hdecode, ?_⟩
    rw [hrank]
    exact take_gives_matched (hget.trans htoken) hdecode
  · have hnone : ∀ token, skipping.visible[settle passed skipping.visible left]? = some token →
        wanted.decode token = none := by
      intro token htoken
      rw [Option.eq_none_iff_forall_ne_some]
      exact fun value hvalue => hdecodes ⟨token, value, htoken, hvalue⟩
    exact Or.inr ⟨take_gives_failed hnone, take_gives_failed (by rwa [hget])⟩

/-- With enough fuel for skipping, a primitive does the same on both sides. -/
theorem run_primitive_ranked (hfilters : Setting.Filters passed skipping filtered) :
    ∃ least, ∀ fuel fuel', least ≤ fuel → ∀ {γ : Type} (wanted : Primitive γ) left,
      left ≤ skipping.visible.length →
        (Correspondence.ranked passed skipping.visible).Related left
            (rank passed skipping.visible left)
            (run (fuel + 1) skipping (.primitive wanted) left)
            (run (fuel' + 1) filtered (.primitive wanted) (rank passed skipping.visible left)) ∧
          (Correspondence.ranked passed skipping.visible).flip.Related
            (rank passed skipping.visible left) left
            (run (fuel' + 1) filtered (.primitive wanted) (rank passed skipping.visible left))
            (run (fuel + 1) skipping (.primitive wanted) left) := by
  obtain ⟨least, hskipped⟩ := skipFrom_gives hfilters.passes
  refine ⟨least, fun fuel fuel' hfuel γ wanted left hleft => ?_⟩
  have hsettles := hskipped fuel hfuel left
  rw [run_primitive, run_primitive_of_none hfilters.skip]
  rcases take_settle_cases hfilters wanted hleft with
    ⟨value, next, hlt, hnext, hrank, hskips, htakes⟩ | ⟨hskips, htakes⟩
  · have hmatches : Attempt.Gives (Attempt.andThen _ fun _ start => take skipping wanted start)
        (.matched value next) _ := hsettles.andThen hskips
    constructor
    · exact Correspondence.related_of_gives_matched (fun _ _ => trivial) hmatches htakes
        ⟨hnext, rfl⟩ ⟨by omega, by omega, by omega⟩
    · exact Correspondence.related_of_gives_matched (fun _ _ => trivial) htakes hmatches
        ⟨hnext, rfl⟩ ⟨by omega, by omega, by omega⟩
  · have hfails : Attempt.Gives (Attempt.andThen _ fun _ start => take skipping wanted start)
        .failed _ := hsettles.andThen hskips
    constructor
    · exact Correspondence.related_of_gives_failed (fun _ _ => trivial) hfails htakes
    · exact Correspondence.related_of_gives_failed (fun _ _ => trivial) htakes hfails

section Run

variable (hfilters : Setting.Filters passed skipping filtered) {parser : Parser ρ α}
  (hparser : parser.IsLibrary)

include hfilters hparser

/-- What a run that skips answers, the run over the filtered tokens answers with the same fuel. -/
theorem run_ranked (fuel : Nat) (hleft : left ≤ skipping.visible.length) :
    (Correspondence.ranked passed skipping.visible).Related left (rank passed skipping.visible left)
      (parser.run fuel skipping left)
      (parser.run fuel filtered (rank passed skipping.visible left)) := by
  obtain ⟨least, hprimitive⟩ := run_primitive_ranked hfilters
  refine Correspondence.run hfilters.library.grammar hfilters.grammar 0 ?_ fuel hparser ⟨hleft, rfl⟩
  rintro fuel γ wanted left right ⟨hleft, rfl⟩ p q hprogress
  -- A run with too little fuel to skip is a run with enough of it, or exhausted.
  have hmore := run_add_related hfilters.library
    (show (Parser.primitive wanted).IsLibrary from trivial) (Nat.le_max_right left skipping.finish)
    (fuel + 1) least (Nat.le_refl left) (Nat.le_max_left left skipping.finish) p p rfl
  rw [Nat.add_right_comm] at hmore
  exact hmore.trans_within ((hprimitive (fuel + least) (fuel + 0) (by omega) wanted left hleft).1
    p q hprogress)

/-- What a run over the filtered tokens answers, the run that skips answers with more fuel. -/
theorem run_ranked_flip : ∃ extra, ∀ fuel left, left ≤ skipping.visible.length →
    (Correspondence.ranked passed skipping.visible).flip.Related
      (rank passed skipping.visible left) left
      (parser.run fuel filtered (rank passed skipping.visible left))
      (parser.run (fuel + extra) skipping left) := by
  obtain ⟨least, hprimitive⟩ := run_primitive_ranked hfilters
  refine ⟨least, fun fuel left hleft => ?_⟩
  have hgrammar := hfilters.grammar
  refine Correspondence.run (hgrammar ▸ hfilters.library.grammar) hgrammar.symm least ?_ fuel
    hparser ⟨hleft, rfl⟩
  rintro fuel γ wanted right left ⟨hleft, rfl⟩
  exact (hprimitive (fuel + least) fuel (by omega) wanted left hleft).2

theorem halts_iff_ranked (hleft : left ≤ skipping.visible.length) :
    parser.Halts skipping left ↔ parser.Halts filtered (rank passed skipping.visible left) := by
  constructor
  · rintro ⟨fuel, hanswer⟩
    exact ⟨fuel, (run_ranked hfilters hparser fuel hleft _ _
      trivial).ne_exhausted hanswer⟩
  · rintro ⟨fuel, hanswer⟩
    obtain ⟨extra, hflip⟩ := run_ranked_flip hfilters hparser
    exact ⟨fuel + extra, (hflip fuel left hleft _ _ trivial).ne_exhausted hanswer⟩

end Run

end Parser

/-! ### Sessions -/

namespace Session

variable {ρ : Nat → Type} {α β : Type} {session : Session ρ} {parser : Parser ρ α} {kind : Kind β}
  {start finish : Nat}

theorem rank_visible_new (passed : Token → Bool) (hfinish : finish ≤ session.tokens.size)
    (skip? : Option (Parser ρ Unit)) {cursor : Nat} (hcursor : cursor ≤ finish) :
    rank passed (Setting.new session.tokens finish session.grammar skip?).visible cursor =
      session.tokens.rank passed cursor := by
  rw [Setting.visible_new hfinish, rank_take hcursor]
  rfl

theorem visible_without (passed : Token → Bool) (hfinish : finish ≤ session.tokens.size) :
    (Setting.new (session.without passed).tokens (session.tokens.rank passed finish)
        (session.without passed).grammar none).visible =
      significant passed (session.tokens.tokens.toList.take finish) := by
  have hrank : session.tokens.rank passed finish ≤ (session.without passed).tokens.size :=
    rank_le finish
  rw [← take_significant_rank hfinish, Setting.visible, Setting.new, Nat.min_eq_left hrank]
  rfl

section Kind

variable (hgrammar : session.grammar.IsLibrary) (hparser : parser.IsLibrary)
  (hdecode : ∀ token ∈ session.tokens.tokens, kind.accepts token = true →
    (kind.decode token).isSome = true)

include hgrammar hdecode in
theorem filters_without (hfinish : finish ≤ session.tokens.size) :
    Setting.Filters kind.accepts
      (Setting.new session.tokens finish session.grammar (some (.discard (.token kind))))
      (Setting.new (session.without kind.accepts).tokens (session.tokens.rank kind.accepts finish)
        (session.without kind.accepts).grammar none) where
  library := ⟨hgrammar, fun skip hskip => by cases hskip; trivial⟩
  passes := by
    refine Parser.passesOver_discard_token kind rfl fun token htoken haccepts => ?_
    rw [Setting.visible_new hfinish] at htoken
    have hmem : token ∈ session.tokens.tokens :=
      Array.mem_toList_iff.1 (List.mem_of_mem_take htoken)
    have hsome := hdecode token hmem haccepts
    rwa [Kind.decode, if_pos haccepts] at hsome
  grammar := rfl
  skip := rfl
  visible := by rw [visible_without kind.accepts hfinish, Setting.visible_new hfinish]

include hgrammar hparser hdecode

theorem halts_iff_without (hstart : start ≤ finish) (hfinish : finish ≤ session.tokens.size) :
    parser.Halts (Setting.new session.tokens finish session.grammar
        (some (.discard (.token kind)))) start ↔
      parser.Halts (Setting.new (session.without kind.accepts).tokens
        (session.tokens.rank kind.accepts finish) (session.without kind.accepts).grammar none)
        (session.tokens.rank kind.accepts start) := by
  rw [← rank_visible_new kind.accepts hfinish (some (.discard (.token kind))) hstart]
  refine Parser.halts_iff_ranked (filters_without hgrammar hdecode hfinish) hparser ?_
  rw [Setting.visible_new hfinish, List.length_take]
  exact Nat.le_min.2 ⟨hstart, hstart.trans hfinish⟩

theorem run_allowance_without (hstart : start ≤ finish) (hfinish : finish ≤ session.tokens.size)
    (p q : Progress) :
    (Correspondence.ranked kind.accepts (session.tokens.tokens.toList.take finish)).Agree start
        (session.tokens.rank kind.accepts start)
        (parser.run (session.allowance parser (some (.discard (.token kind))))
          (Setting.new session.tokens finish session.grammar (some (.discard (.token kind))))
          start p)
        (parser.run ((session.without kind.accepts).allowance parser none)
          (Setting.new (session.without kind.accepts).tokens
            (session.tokens.rank kind.accepts finish) (session.without kind.accepts).grammar none)
          (session.tokens.rank kind.accepts start) q) := by
  have hfilters := filters_without hgrammar hdecode hfinish
  have hvisible := Setting.visible_new hfinish session.grammar (some (.discard (.token kind)))
  have hhalts := halts_iff_without hgrammar hparser hdecode hstart hfinish
  have hleft : start ≤ (session.tokens.tokens.toList.take finish).length := by
    rw [List.length_take]
    exact Nat.le_min.2 ⟨hstart, hstart.trans hfinish⟩
  rw [← hvisible] at hleft ⊢
  rw [← rank_visible_new kind.accepts hfinish (some (.discard (.token kind))) hstart] at hhalts ⊢
  have hsame := Parser.run_ranked hfilters hparser
    (session.allowance parser (some (.discard (.token kind)))) hleft p q trivial
  generalize hskipped : parser.run _ _ start p = skipped at hsame ⊢
  obtain ⟨outcome, progress⟩ := skipped
  by_cases hexhausted : outcome = .exhausted
  · rw [hexhausted]
    exact .exhausted progress _
  · have hlibrary := hfilters.library
    have hanswer := hsame.ne_exhausted hexhausted
    have hhalts' := hhalts.1 ⟨_, by
      rwa [Parser.run_outcome_eq hlibrary hparser _ _ _ p, hskipped]⟩
    have hgrammar' : (session.without kind.accepts).grammar.IsLibrary := hgrammar
    have hnone : ∀ skip : Parser ρ Unit, none = some skip → skip.IsLibrary :=
      fun _ hskip => nomatch hskip
    have hallowed := run_allowance_ne_exhausted hgrammar' hparser hnone hhalts' q
    have heq := Parser.run_eq_of_ne_exhausted ⟨hgrammar', hnone⟩ hparser hanswer hallowed
    rwa [heq] at hsame

theorem run_allowance_without_outcome (hstart : start ≤ finish)
    (hfinish : finish ≤ session.tokens.size) (p q : Progress) {outcome : Outcome α}
    (houtcome : (parser.run (session.allowance parser (some (.discard (.token kind))))
      (Setting.new session.tokens finish session.grammar (some (.discard (.token kind))))
      start p).1 = outcome) :
    (parser.run ((session.without kind.accepts).allowance parser none)
      (Setting.new (session.without kind.accepts).tokens (session.tokens.rank kind.accepts finish)
        (session.without kind.accepts).grammar none) (session.tokens.rank kind.accepts start) q).1 =
          outcome.relocate (session.tokens.rank kind.accepts) ∧
      ∀ value next, outcome = .matched value next → next ≤ finish := by
  have hagree := run_allowance_without hgrammar hparser hdecode hstart hfinish p q
  have hhalts := halts_iff_without hgrammar hparser hdecode hstart hfinish
  generalize hskipped :
    parser.run (session.allowance parser (some (.discard (.token kind)))) _ _ _ = skipped
    at hagree houtcome
  generalize hfiltered : parser.run ((session.without kind.accepts).allowance parser none) _ _ _ =
    filtered at hagree ⊢
  cases hagree with
  | failed =>
    subst houtcome
    exact ⟨rfl, nofun⟩
  | matched value hcursor hmove =>
    subst houtcome
    obtain ⟨hle, rfl⟩ := hcursor
    rw [List.length_take] at hle
    have hnext := hle.trans (Nat.min_le_left _ _)
    rw [rank_take hnext]
    refine ⟨rfl, ?_⟩
    rintro _ _ ⟨⟩
    exact hnext
  | exhausted progress =>
    subst houtcome
    refine ⟨?_, nofun⟩
    by_contra hne
    have hnone : ∀ skip : Parser ρ Unit, none = some skip → skip.IsLibrary :=
      fun _ hskip => nomatch hskip
    have hhalted := hhalts.2 ⟨_, by
      rwa [Parser.run_outcome_eq ⟨hgrammar, hnone⟩ hparser _ _ _ q, hfiltered]⟩
    refine run_allowance_ne_exhausted hgrammar hparser ?_ hhalted p (by rw [hskipped])
    rintro skip ⟨⟩
    trivial

theorem run_without (hstart : start ≤ finish) (hfinish : finish ≤ session.tokens.size) :
    ((session.without kind.accepts).run parser (session.tokens.rank kind.accepts start)
        (session.tokens.rank kind.accepts finish) none).value.value? =
      (session.run parser start finish (some (.discard (.token kind)))).value.value? ∧
    ((session.without kind.accepts).run parser (session.tokens.rank kind.accepts start)
        (session.tokens.rank kind.accepts finish) none).value.cursor =
      session.tokens.rank kind.accepts
        (session.run parser start finish (some (.discard (.token kind)))).value.cursor := by
  simp only [run]
  generalize hskipped :
    parser.run (session.allowance parser (some (.discard (.token kind)))) _ _ _ = skipped
  obtain ⟨houtcome, -⟩ := run_allowance_without_outcome hgrammar hparser hdecode hstart hfinish
    ⟨start, []⟩ ⟨session.tokens.rank kind.accepts start, []⟩ (by rw [hskipped])
  generalize hfiltered : parser.run ((session.without kind.accepts).allowance parser none) _ _ _ =
    filtered at houtcome
  obtain ⟨outcome, progress⟩ := skipped
  obtain ⟨outcome', progress'⟩ := filtered
  change outcome' = _ at houtcome
  subst houtcome
  cases outcome <;> exact ⟨rfl, rfl⟩

theorem parseAll_without (value : α) :
    (session.parseAll parser (some (.discard (.token kind)))).value = .ok value ↔
      ((session.without kind.accepts).parseAll parser none).value = .ok value := by
  have hskip : ∀ skip, some (Parser.discard (.token kind)) = some skip →
      (skip : Parser ρ Unit).IsLibrary := by
    rintro skip ⟨⟩
    trivial
  have hpasses := (filters_without hgrammar hdecode le_rfl).passes
  rw [parseAll_value_eq_ok_iff (skipFrom_allowance_gives hgrammar hparser hskip hpasses),
    parseAll_value_eq_ok_iff fun next => by
      rw [Parser.skipFrom_of_none rfl]
      exact .matched () next]
  have hsize : session.tokens.rank kind.accepts session.tokens.size =
      (session.without kind.accepts).tokens.size := by
    have hlength : session.tokens.size = session.tokens.tokens.toList.length := rfl
    rw [TokenSequence.rank, rank, hlength, List.take_length]
    rfl
  have hend : ∀ next, next ≤ session.tokens.size →
      (settle kind.accepts session.tokens.tokens.toList next = session.tokens.size ↔
        session.tokens.rank kind.accepts next = (session.without kind.accepts).tokens.size) :=
    fun next hnext => (rank_eq_length_iff hnext).symm
  obtain ⟨houtcome, hbound⟩ := run_allowance_without_outcome hgrammar hparser hdecode
    (Nat.zero_le session.tokens.size) le_rfl ⟨0, []⟩ ⟨0, []⟩ rfl
  rw [hsize, show session.tokens.rank kind.accepts 0 = 0 from rfl] at houtcome
  rw [houtcome, Setting.visible_new_size]
  generalize (parser.run _ _ 0 ⟨0, []⟩).1 = outcome at hbound ⊢
  cases outcome with
  | failed => simp [Outcome.relocate]
  | exhausted => simp [Outcome.relocate]
  | matched found next =>
    have hiff := hend next (hbound found next rfl)
    simp only [Outcome.relocate, Outcome.matched.injEq]
    constructor
    · rintro ⟨_, ⟨rfl, rfl⟩, hsettled⟩
      exact ⟨_, ⟨rfl, rfl⟩, hiff.1 hsettled⟩
    · rintro ⟨_, ⟨rfl, rfl⟩, hlast⟩
      exact ⟨_, ⟨rfl, rfl⟩, hiff.2 hlast⟩

end Kind

/-- **Skipping is filtering.** Let a kind read all its tokens in a sequence. A library parser that
skips this kind halts, has a value and ends at a cursor exactly as it does without skipping over the
sequence with these tokens taken out; and it matches all tokens of the one with a value exactly if
it matches all tokens of the other with it. -/
theorem skipping_eq_filtering (session : Session ρ) (parser : Parser ρ α) (kind : Kind β)
    (hgrammar : session.grammar.IsLibrary) (hparser : parser.IsLibrary)
    (hdecode : ∀ token ∈ session.tokens.tokens, kind.accepts token = true →
      (kind.decode token).isSome = true) :
    (∀ start finish, start ≤ finish → finish ≤ session.tokens.size →
      let first := session.tokens.rank kind.accepts start
      let last := session.tokens.rank kind.accepts finish
      let skip := Parser.discard (.token kind)
      let skipping := (session.run parser start finish (some skip)).value
      let filtered := ((session.without kind.accepts).run parser first last none).value
      filtered.value? = skipping.value? ∧
        filtered.cursor = session.tokens.rank kind.accepts skipping.cursor ∧
        (parser.Halts (Setting.new session.tokens finish session.grammar (some skip)) start ↔
          parser.Halts (Setting.new (session.without kind.accepts).tokens last session.grammar none)
            first)) ∧
    ∀ value, (session.parseAll parser (some (.discard (.token kind)))).value = .ok value ↔
      ((session.without kind.accepts).parseAll parser none).value = .ok value := by
  constructor
  · intro start finish hstart hfinish
    obtain ⟨hvalue, hcursor⟩ := run_without hgrammar hparser hdecode hstart hfinish
    exact ⟨hvalue, hcursor, halts_iff_without hgrammar hparser hdecode hstart hfinish⟩
  · exact parseAll_without hgrammar hparser hdecode

/-- Two letters with a blank behind each, matched from the first blank on and as a whole. -/
theorem skipping_blanks_between_letters :
    let letter : Kind String := ⟨0, "letter", some⟩
    let blank : Kind Unit := ⟨1, "blank", fun _ => some ()⟩
    let letters : Parser Unit (List String) := .many (.token letter)
    let session : Session Unit := ⟨Grammar.empty,
      ⟨#[⟨0, "letter", "a", .ofOffsets 0 1⟩, ⟨1, "blank", " ", .ofOffsets 1 2⟩,
        ⟨0, "letter", "b", .ofOffsets 2 3⟩, ⟨1, "blank", " ", .ofOffsets 3 4⟩], 4⟩⟩
    ((session.run letters 1 4 (some (.discard (.token blank)))).value = ⟨some ["b"], 3, 4⟩ ∧
      ((session.without blank.accepts).run letters 1 2 none).value.value? = some ["b"] ∧
      ((session.without blank.accepts).run letters 1 2 none).value.cursor = 2) ∧
    (session.parseAll letters (some (.discard (.token blank)))).value = .ok ["a", "b"] := by
  intro letter blank letters session
  have hgrammar : session.grammar.IsLibrary := fun _ hrule => nomatch hrule
  obtain ⟨hrun, hparseAll⟩ := skipping_eq_filtering session letters blank hgrammar trivial
    (fun token _ haccepts => by rw [Kind.decode, if_pos haccepts]; rfl)
  -- Behind the first letter: the blank before the second one, and the second one.
  have hskipping : (session.run letters 1 4 (some (.discard (.token blank)))).value =
      ⟨some ["b"], 3, 4⟩ := by rfl
  obtain ⟨hvalue, hcursor, -⟩ := hrun 1 4 (by decide) (by decide)
  rw [hskipping] at hvalue hcursor
  exact ⟨⟨hskipping, hvalue, hcursor⟩, (hparseAll ["a", "b"]).2 (by rfl)⟩

end Session

end TokenGrammar
