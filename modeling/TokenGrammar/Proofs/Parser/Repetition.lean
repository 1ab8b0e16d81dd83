import TokenGrammar.Proofs.Parser.Coverage

/-!
# Repetition

A repetition matches its item again and again, each time from where the last one ended. It ends when
the item fails, or after an item that does not advance, whose value still counts. So its result is
read off the longest row of items that advance, with one more that stays where that row ends if the
item matches there. A repetition of at least one item is the item and the repetition after it,
unless items may stay where they are: then the repetition after the first would come up with it
again.
-/

namespace TokenGrammar

theorem Attempt.map_outcome {α β : Type} (f : α → β) (attempt : Attempt α) (progress : Progress) :
    (attempt.map f progress).1 = (attempt progress).1.map f := by
  unfold Attempt.map Attempt.andThen Attempt.resume
  generalize attempt progress = result
  obtain ⟨outcome, after⟩ := result
  cases outcome <;> rfl

theorem Outcome.map_eq_matched {α β : Type} {f : α → β} {outcome : Outcome α} {value : β}
    {next : Nat} (h : outcome.map f = .matched value next) :
    ∃ inner, outcome = .matched inner next ∧ f inner = value := by
  cases outcome with
  | matched inner stop =>
    cases h
    exact ⟨inner, rfl, rfl⟩
  | failed => cases h
  | exhausted => cases h

namespace Parser

variable {ρ : Nat → Type} {α : Type} {setting : Setting ρ} {item : Parser ρ α}
  {cursor next stop reach reach' : Nat} {value : α} {values : List α}

/-! ### One round -/

namespace Answers

theorem many_of_failed (h : item.Answers setting cursor .failed reach) :
    (many item).Answers setting cursor (.matched [] cursor) reach := by
  obtain ⟨least, h⟩ := h
  refine of_succ least fun fuel hfuel => ?_
  rw [run_many]
  refine Attempt.Gives.congr_reach ?_ (Nat.max_zero reach)
  exact (h fuel hfuel).resume_of_failed (.matched [] cursor)

theorem many_of_stays (h : item.Answers setting cursor (.matched value cursor) reach) :
    (many item).Answers setting cursor (.matched [value] cursor) reach := by
  obtain ⟨least, h⟩ := h
  refine of_succ least fun fuel hfuel => ?_
  rw [run_many]
  refine Attempt.Gives.congr_reach ?_ (Nat.max_zero reach)
  refine (h fuel hfuel).resume_of_matched ?_
  rw [if_neg (Nat.lt_irrefl cursor)]
  exact .matched [value] cursor

theorem many_of_advances {outcome : Outcome (List α)}
    (h : item.Answers setting cursor (.matched value next) reach) (hlt : cursor < next)
    (h' : (many item).Answers setting next outcome reach') :
    (many item).Answers setting cursor (outcome.map (value :: ·)) (max reach reach') := by
  obtain ⟨least, h⟩ := h
  obtain ⟨least', h'⟩ := h'
  refine of_succ (max least least') fun fuel hfuel => ?_
  rw [run_many]
  refine (h fuel (by omega)).resume_of_matched ?_
  rw [if_pos hlt]
  exact (h' fuel (by omega)).map _

theorem many1 (h : (many item).Answers setting cursor (.matched values stop) reach)
    (hvalues : values ≠ []) :
    (many1 item).Answers setting cursor (.matched values stop) reach := by
  obtain ⟨least, h⟩ := h
  refine of_succ least fun fuel hfuel => ?_
  rw [run_many1]
  refine Attempt.Gives.congr_reach ?_ (Nat.max_zero reach)
  refine (h fuel hfuel).andThen ?_
  rw [if_neg (by simpa using hvalues)]
  exact .matched values stop

theorem many1_of_nil (h : (many item).Answers setting cursor (.matched [] stop) reach) :
    (Parser.many1 item).Answers setting cursor .failed reach := by
  obtain ⟨least, h⟩ := h
  refine of_succ least fun fuel hfuel => ?_
  rw [run_many1]
  refine Attempt.Gives.congr_reach ?_ (Nat.max_zero reach)
  exact (h fuel hfuel).andThen .failed

end Answers

theorem run_many_ne_failed (fuel : Nat) (setting : Setting ρ) (item : Parser ρ α) (cursor : Nat)
    (progress : Progress) : ((many item).run fuel setting cursor progress).1 ≠ .failed := by
  induction fuel generalizing cursor progress with
  | zero =>
    intro hfailed
    cases hfailed
  | succ fuel ih =>
    rw [run_many, Attempt.resume]
    intro hfailed
    split at hfailed
    · next value next after _ =>
      split at hfailed
      · exact ih next after (Attempt.failed_of_map hfailed)
      · cases hfailed
    · cases hfailed
    · cases hfailed

section Library

variable (hsetting : setting.IsLibrary) (hitem : item.IsLibrary)

include hsetting hitem

/-- **One round of a repetition.** The item fails, or it matches and stays, or it advances and the
repetition goes on from there. -/
theorem Yields.many_cases {outcome : Outcome (List α)}
    (h : (many item).Yields setting cursor outcome) (hne : outcome ≠ .exhausted) :
    (item.Yields setting cursor .failed ∧ outcome = .matched [] cursor) ∨
    (∃ value, item.Yields setting cursor (.matched value cursor) ∧
      outcome = .matched [value] cursor) ∨
    ∃ value next rest, item.Yields setting cursor (.matched value next) ∧ cursor < next ∧
      (many item).Yields setting next rest ∧ outcome = rest.map (value :: ·) := by
  obtain ⟨fuel, progress, rfl⟩ := h
  cases fuel with
  | zero => exact absurd rfl hne
  | succ fuel =>
    rw [run_many, Attempt.resume] at hne ⊢
    split at hne
    · next value next after hround =>
      have hyields : item.Yields setting cursor (.matched value next) :=
        ⟨fuel, progress, by rw [hround]⟩
      by_cases hlt : cursor < next
      · rw [if_pos hlt, Attempt.map_outcome]
        exact Or.inr (Or.inr ⟨value, next, _, hyields, hlt, ⟨fuel, after, rfl⟩, rfl⟩)
      · rw [if_neg hlt]
        have hle := (hyields.within hsetting hitem).1
        obtain rfl : cursor = next := by omega
        exact Or.inr (Or.inl ⟨value, hyields, rfl⟩)
    · next after hround => exact Or.inl ⟨⟨fuel, progress, by rw [hround]⟩, rfl⟩
    · exact absurd rfl hne

theorem yields_many_nil_iff :
    (many item).Yields setting cursor (.matched [] stop) ↔
      item.Yields setting cursor .failed ∧ stop = cursor := by
  constructor
  · intro hmany
    obtain ⟨hfailed, ⟨⟩⟩ | ⟨value, -, ⟨⟩⟩ | ⟨value, next, rest, -, -, -, hrest⟩ :=
      hmany.many_cases hsetting hitem (by simp)
    · exact ⟨hfailed, rfl⟩
    · obtain ⟨values, -, ⟨⟩⟩ := Outcome.map_eq_matched hrest.symm
  · rintro ⟨hfailed, rfl⟩
    obtain ⟨reach, hanswers⟩ := hfailed.answers (by simp) hsetting hitem
    exact hanswers.many_of_failed.yields

theorem yields_many_cons_iff :
    (many item).Yields setting cursor (.matched (value :: values) stop) ↔
      (item.Yields setting cursor (.matched value cursor) ∧ values = [] ∧ stop = cursor) ∨
      ∃ next, item.Yields setting cursor (.matched value next) ∧ cursor < next ∧
        (many item).Yields setting next (.matched values stop) := by
  constructor
  · intro hmany
    obtain ⟨-, ⟨⟩⟩ | ⟨value, hstays, ⟨⟩⟩ | ⟨value, next, rest, hyields, hlt, hmore, hrest⟩ :=
      hmany.many_cases hsetting hitem (by simp)
    · exact Or.inl ⟨hstays, rfl, rfl⟩
    · obtain ⟨_, rfl, ⟨⟩⟩ := Outcome.map_eq_matched hrest.symm
      exact Or.inr ⟨next, hyields, hlt, hmore⟩
  · rintro (⟨hstays, rfl, rfl⟩ | ⟨next, hyields, hlt, hmore⟩)
    · obtain ⟨reach, hanswers⟩ := hstays.answers (by simp) hsetting hitem
      exact hanswers.many_of_stays.yields
    · obtain ⟨reach, hanswers⟩ := hyields.answers (by simp) hsetting hitem
      obtain ⟨reach', hanswers'⟩ := hmore.answers (by simp) hsetting hitem
      exact (hanswers.many_of_advances hlt hanswers').yields

end Library

/-! ### All rounds -/

/-- One item that advances. -/
def Advances (setting : Setting ρ) (item : Parser ρ α) (cursor next : Nat) : Prop :=
  cursor < next ∧ ∃ value, item.Yields setting cursor (.matched value next)

/-- Values and stops of items in a row: each item matches from one stop to the next, all but the
last advance, and behind the last the item fails, unless the last has not advanced. -/
structure Repeats (setting : Setting ρ) (item : Parser ρ α) (cursor : Nat) (values : List α)
    (stops : Nat → Nat) : Prop where
  start : stops 0 = cursor
  matched : ∀ i value, values[i]? = some value →
    item.Yields setting (stops i) (.matched value (stops (i + 1)))
  advances : ∀ i, i + 1 < values.length → stops i < stops (i + 1)
  ends : (item.Yields setting (stops values.length) .failed ∧
      ∀ i, i + 1 = values.length → stops i < stops (i + 1)) ∨
    ∃ i, i + 1 = values.length ∧ stops (i + 1) = stops i

theorem repeats_nil_iff {stops : Nat → Nat} :
    item.Repeats setting cursor [] stops ↔
      stops 0 = cursor ∧ item.Yields setting cursor .failed := by
  constructor
  · rintro ⟨rfl, -, -, ⟨hfailed, -⟩ | ⟨i, hi, -⟩⟩
    · exact ⟨rfl, hfailed⟩
    · cases hi
  · rintro ⟨rfl, hfailed⟩
    exact ⟨rfl, by simp, by simp, Or.inl ⟨hfailed, by simp⟩⟩

namespace Repeats

variable {stops : Nat → Nat}

theorem tail (h : item.Repeats setting cursor (value :: values) stops)
    (hlt : stops 0 < stops 1) :
    item.Repeats setting (stops 1) values fun i => stops (i + 1) where
  start := rfl
  matched i found hfound := h.matched (i + 1) found hfound
  advances i hi := h.advances (i + 1) (Nat.succ_lt_succ hi)
  ends := by
    obtain ⟨hfailed, hlast⟩ | ⟨i, hi, hstays⟩ := h.ends
    · exact Or.inl ⟨hfailed, fun i hi => hlast (i + 1) (congrArg (· + 1) hi)⟩
    · cases i with
      | zero => exact absurd hstays (Nat.ne_of_gt hlt)
      | succ i => exact Or.inr ⟨i, Nat.succ.inj hi, hstays⟩

theorem cons (h : item.Repeats setting next values stops)
    (hyields : item.Yields setting cursor (.matched value next)) (hlt : cursor < next) :
    item.Repeats setting cursor (value :: values) fun i => Nat.casesOn i cursor stops where
  start := rfl
  matched i found hfound := by
    cases i with
    | zero =>
      cases hfound
      rwa [← h.start] at hyields
    | succ i => exact h.matched i found hfound
  advances i hi := by
    cases i with
    | zero => rwa [← h.start] at hlt
    | succ i => exact h.advances i (Nat.lt_of_succ_lt_succ hi)
  ends := by
    obtain ⟨hfailed, hlast⟩ | ⟨i, hi, hstays⟩ := h.ends
    · refine Or.inl ⟨hfailed, fun i hi => ?_⟩
      cases i with
      | zero => rwa [← h.start] at hlt
      | succ i => exact hlast i (Nat.succ.inj hi)
    · exact Or.inr ⟨i + 1, congrArg (· + 1) hi, hstays⟩

end Repeats

section Library

variable (hsetting : setting.IsLibrary) (hitem : item.IsLibrary)

include hsetting hitem

/-- A repetition matches with the values of items in a row, and ends at the last stop. -/
theorem yields_many_iff :
    (many item).Yields setting cursor (.matched values stop) ↔
      ∃ stops, item.Repeats setting cursor values stops ∧ stop = stops values.length := by
  induction values generalizing cursor with
  | nil =>
    rw [yields_many_nil_iff hsetting hitem]
    constructor
    · rintro ⟨hfailed, rfl⟩
      exact ⟨fun _ => stop, repeats_nil_iff.2 ⟨rfl, hfailed⟩, rfl⟩
    · rintro ⟨stops, hrepeats, rfl⟩
      obtain ⟨hstart, hfailed⟩ := repeats_nil_iff.1 hrepeats
      exact ⟨hfailed, hstart⟩
  | cons value values ih =>
    rw [yields_many_cons_iff hsetting hitem]
    constructor
    · rintro (⟨hstays, rfl, rfl⟩ | ⟨next, hyields, hlt, hmore⟩)
      · refine ⟨fun _ => stop, ⟨rfl, ?_, by simp, Or.inr ⟨0, rfl, rfl⟩⟩, rfl⟩
        intro i found hfound
        obtain ⟨-, rfl⟩ : i = 0 ∧ value = found := by
          cases i with
          | zero => simpa using hfound
          | succ i => simp at hfound
        exact hstays
      · obtain ⟨stops, hrepeats, rfl⟩ := ih.1 hmore
        exact ⟨_, hrepeats.cons hyields hlt, rfl⟩
    · rintro ⟨stops, hrepeats, rfl⟩
      have hyields := hrepeats.matched 0 value rfl
      have hle := (hyields.within hsetting hitem).1
      obtain rfl := hrepeats.start
      rcases Nat.lt_or_eq_of_le hle with hlt | heq
      · exact Or.inr ⟨stops 1, hyields, hlt, ih.2 ⟨_, hrepeats.tail hlt, rfl⟩⟩
      · -- Only the last item may stay, so there is none behind it.
        have hlast : values = [] := by
          by_contra hmore
          have hlt := hrepeats.advances 0 (by simpa using List.length_pos_iff.2 hmore)
          exact absurd heq (Nat.ne_of_lt hlt)
        subst hlast
        refine Or.inl ⟨?_, rfl, heq.symm⟩
        rwa [← heq] at hyields

/-- Items that advance use up the tokens before the end bound. -/
theorem Yields.length_many_le (h : (many item).Yields setting cursor (.matched values stop)) :
    values.length ≤ setting.finish - cursor + 1 := by
  induction values generalizing cursor with
  | nil => exact Nat.zero_le _
  | cons value values ih =>
    obtain ⟨-, rfl, -⟩ | ⟨next, hyields, hlt, hmore⟩ := (yields_many_cons_iff hsetting hitem).1 h
    · simp
    · have hlimit := (hyields.within hsetting hitem).2
      have hrest := ih hmore
      rw [List.length_cons]
      omega

/-! ### At least one item -/

theorem yields_many1_iff :
    (many1 item).Yields setting cursor (.matched values stop) ↔
      values ≠ [] ∧ (many item).Yields setting cursor (.matched values stop) := by
  constructor
  · rintro ⟨fuel, progress, hmatched⟩
    cases fuel with
    | zero => cases hmatched
    | succ fuel =>
      rw [run_many1, Attempt.andThen, Attempt.resume] at hmatched
      split at hmatched
      · next found next after hmany =>
        split at hmatched
        · cases hmatched
        · next hfound =>
          cases hmatched
          exact ⟨by simpa using hfound, fuel, progress, by rw [hmany]⟩
      · cases hmatched
      · cases hmatched
  · rintro ⟨hvalues, hmany⟩
    obtain ⟨reach, hanswers⟩ := hmany.answers (by simp) hsetting hitem
    exact (hanswers.many1 hvalues).yields

theorem yields_many1_failed_iff :
    (many1 item).Yields setting cursor .failed ↔ item.Yields setting cursor .failed := by
  constructor
  · rintro ⟨fuel, progress, hfailed⟩
    cases fuel with
    | zero => cases hfailed
    | succ fuel =>
      rw [run_many1, Attempt.andThen, Attempt.resume] at hfailed
      split at hfailed
      · next found next after hmany =>
        split at hfailed
        · next hfound =>
          obtain rfl : found = [] := by simpa using hfound
          have hyields : (many item).Yields setting cursor (.matched [] next) :=
            ⟨fuel, progress, by rw [hmany]⟩
          exact ((yields_many_nil_iff hsetting hitem).1 hyields).1
        · cases hfailed
      · next after hmany =>
        have hnever := run_many_ne_failed fuel setting item cursor progress
        rw [hmany] at hnever
        exact absurd rfl hnever
      · cases hfailed
  · intro hfailed
    obtain ⟨reach, hanswers⟩ := hfailed.answers (by simp) hsetting hitem
    exact hanswers.many_of_failed.many1_of_nil.yields

/-! ### Ending -/

theorem exists_many_answers
    (hhalts : ∀ reached, Relation.ReflTransGen (item.Advances setting) cursor reached →
      item.Halts setting reached) :
    ∃ values stop reach, (many item).Answers setting cursor (.matched values stop) reach := by
  -- Each item that advances leaves fewer tokens before the end bound.
  induction hleft : setting.finish - cursor using Nat.strong_induction_on generalizing cursor with
  | _ left ih =>
    obtain ⟨outcome, reach, hne, hanswers⟩ := (hhalts cursor .refl).answers hsetting hitem
    cases outcome with
    | exhausted => exact absurd rfl hne
    | failed => exact ⟨[], cursor, reach, hanswers.many_of_failed⟩
    | matched value next =>
      obtain ⟨hle, hlimit⟩ := hanswers.yields.within hsetting hitem
      rcases Nat.lt_or_eq_of_le hle with hlt | rfl
      · have hstep : item.Advances setting cursor next := ⟨hlt, value, hanswers.yields⟩
        obtain ⟨values, stop, reach', hmore⟩ := ih (setting.finish - next) (by omega)
          (fun reached hreached => hhalts reached (hreached.head hstep)) rfl
        exact ⟨_, _, _, hanswers.many_of_advances hlt hmore⟩
      · exact ⟨[value], cursor, reach, hanswers.many_of_stays⟩

/-- Where no item stays, the first one can be taken out of the repetition. -/
theorem exists_many1_answers
    (hhalts : ∀ reached, Relation.ReflTransGen (item.Advances setting) cursor reached →
      item.Halts setting reached)
    (hadvances : ∀ value next, item.Yields setting cursor (.matched value next) → cursor < next) :
    ∃ outcome reach, outcome ≠ .exhausted ∧ (many1 item).Answers setting cursor outcome reach ∧
      (map (fun pair : α × List α => pair.1 :: pair.2) (seq item (many item))).Answers setting
        cursor outcome reach := by
  obtain ⟨outcome, reach, hne, hanswers⟩ := (hhalts cursor .refl).answers hsetting hitem
  cases outcome with
  | exhausted => exact absurd rfl hne
  | failed =>
    exact ⟨.failed, reach, by simp, hanswers.many_of_failed.many1_of_nil,
      (hanswers.seq_of_failed _).map _⟩
  | matched value next =>
    have hlt := hadvances value next hanswers.yields
    have hstep : item.Advances setting cursor next := ⟨hlt, value, hanswers.yields⟩
    obtain ⟨values, stop, reach', hmore⟩ := exists_many_answers hsetting hitem
      fun reached hreached => hhalts reached (hreached.head hstep)
    have hmany := hanswers.many_of_advances hlt hmore
    exact ⟨.matched (value :: values) stop, max reach reach', by simp,
      hmany.many1 (List.cons_ne_nil value values), (hanswers.seq hmore).map _⟩

end Library

/-- **Repetition is a row of items.** A repetition matches with values and a stop if and only if
items in a row have these values and the last of them ends there. It never fails. With at least one
item asked for, it has the same results but the empty one, and fails where the item fails. There are
at most as many items as tokens up to the end bound, and one that stays. If the item halts at all
stops of a row, then the repetition has a result; and if no item ever stays, then at least one item
is one item and the repetition behind it, with the same values, stop and refusals. -/
theorem repetition_is_row_of_items (setting : Setting ρ) (item : Parser ρ α) (cursor : Nat)
    (hsetting : setting.IsLibrary) (hitem : item.IsLibrary) :
    (∀ values stop, (many item).Yields setting cursor (.matched values stop) ↔
      ∃ stops, item.Repeats setting cursor values stops ∧ stop = stops values.length) ∧
    ¬(many item).Yields setting cursor .failed ∧
    (∀ values stop, (many1 item).Yields setting cursor (.matched values stop) ↔
      values ≠ [] ∧ (many item).Yields setting cursor (.matched values stop)) ∧
    ((many1 item).Yields setting cursor .failed ↔ item.Yields setting cursor .failed) ∧
    (∀ values stop, (many item).Yields setting cursor (.matched values stop) →
      values.length ≤ setting.finish - cursor + 1) ∧
    ((∀ reached, Relation.ReflTransGen (item.Advances setting) cursor reached →
        item.Halts setting reached) →
      (∃ values stop reach, (many item).Answers setting cursor (.matched values stop) reach) ∧
      ((∀ position value next,
          item.Yields setting position (.matched value next) → position < next) →
        ∃ outcome reach, outcome ≠ .exhausted ∧
          (many1 item).Answers setting cursor outcome reach ∧
          (map (fun pair : α × List α => pair.1 :: pair.2) (seq item (many item))).Answers setting
            cursor outcome reach)) := by
  refine ⟨fun values stop => yields_many_iff hsetting hitem, ?_,
    fun values stop => yields_many1_iff hsetting hitem, yields_many1_failed_iff hsetting hitem,
    fun values stop hmany => hmany.length_many_le hsetting hitem, fun hhalts => ⟨?_, ?_⟩⟩
  · rintro ⟨fuel, progress, hfailed⟩
    exact run_many_ne_failed fuel setting item cursor progress hfailed
  · exact exists_many_answers hsetting hitem hhalts
  · intro hadvances
    exact exists_many1_answers hsetting hitem hhalts (hadvances cursor)

/-- Two letters with a blank between them, which is skipped, before a digit. -/
theorem repetition_of_letters_before_digit :
    let letter : Parser String String := .token ⟨0, "letter", some⟩
    let skip : Parser String Unit := .token ⟨1, "blank", fun _ => some ()⟩
    let tokens : TokenSequence := ⟨#[⟨0, "letter", "a", .ofOffsets 0 1⟩,
      ⟨1, "blank", " ", .ofOffsets 1 2⟩, ⟨0, "letter", "b", .ofOffsets 2 3⟩,
      ⟨2, "digit", "7", .ofOffsets 3 4⟩], 4⟩
    let setting := Setting.new tokens 4 Grammar.empty (some skip)
    (∃ stops, letter.Repeats setting 0 ["a", "b"] stops ∧ 3 = stops 2) ∧
      ∃ reach, (many1 letter).Answers setting 0 (.matched ["a", "b"] 3) reach ∧
        (map (fun pair : String × List String => pair.1 :: pair.2)
          (seq letter (many letter))).Answers setting 0 (.matched ["a", "b"] 3) reach := by
  intro letter skip tokens setting
  have hlibrary : skip.IsLibrary := trivial
  have hsetting : setting.IsLibrary := ⟨nofun, fun _ => hlibrary.of_some_eq⟩
  have hletter : letter.IsLibrary := trivial
  obtain ⟨hmany, -, hmany1, -, -, hends⟩ :=
    repetition_is_row_of_items setting letter 0 hsetting hletter
  have hyields : (many letter).Yields setting 0 (.matched ["a", "b"] 3) := ⟨8, ⟨0, []⟩, by rfl⟩
  have hanswers : ∀ position ≤ 4, (letter.run 8 setting position ⟨0, []⟩).1 ≠ .exhausted := by
    decide
  have hhalts : ∀ reached, Relation.ReflTransGen (letter.Advances setting) 0 reached →
      letter.Halts setting reached := by
    intro reached hreached
    refine ⟨8, hanswers reached ?_⟩
    induction hreached with
    | refl => exact Nat.zero_le 4
    | tail _ hstep ih =>
      obtain ⟨-, value, hitem⟩ := hstep
      have hlimit := (hitem.within hsetting hletter).2
      exact hlimit.trans (Nat.max_le.2 ⟨ih, Nat.le_refl 4⟩)
  have hadvances : ∀ position value next,
      letter.Yields setting position (.matched value next) → position < next := by
    intro position value next hitem
    obtain ⟨found, hskips, rfl, -⟩ := Yields.primitive hitem
    exact Nat.lt_succ_of_le (hskips.within hsetting).1
  obtain ⟨outcome, reach, hne, hfirst, hsecond⟩ := (hends hhalts).2 hadvances
  have hsame := hfirst.yields.unique ((hmany1 _ _).2 ⟨by simp, hyields⟩) hne (by simp) hsetting
    hletter
  rw [hsame] at hfirst hsecond
  exact ⟨(hmany _ _).1 hyields, reach, hfirst, hsecond⟩

-- An item that stays comes up once in the repetition, but twice if it is taken out in front.
example :
    let perhaps : Parser String (Option String) := .optional (.token ⟨0, "letter", some⟩)
    let setting : Setting String := Setting.new ⟨#[], 0⟩ 0 Grammar.empty none
    ((many1 perhaps).run 8 setting 0 ⟨0, []⟩).1 = .matched [none] 0 ∧
      ((map (fun pair : Option String × List (Option String) => pair.1 :: pair.2)
        (seq perhaps (many perhaps))).run 8 setting 0 ⟨0, []⟩).1 = .matched [none, none] 0 := by
  decide

end Parser

end TokenGrammar
