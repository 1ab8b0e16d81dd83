import Mathlib.Data.List.Chain
import TokenGrammar.Proofs.Parser.Coverage
import TokenGrammar.Proofs.WholeMatch

/-!
# Where skipping ends

Skipping takes one match of the skip parser after the other for as long as they advance. What the
skip parser does at a cursor is fixed, so there is only one way to go, and skipping goes it to its
end: a position from which the skip parser fails or does not advance. From every position on the way
skipping leads to the same end. Hence a token is looked for at the same place whether skipping was
done before or not, and whichever branch of a parser looks for it first.
-/

namespace TokenGrammar

namespace Setting

variable {ρ : Nat → Type} {setting : Setting ρ} {cursor reached rest next : Nat}

/-- The skip parser fails at the position or matches without advancing, if there is one. -/
def AtRest (setting : Setting ρ) (position : Nat) : Prop :=
  ∀ skip, setting.skip? = some skip →
    skip.Yields setting.withoutSkip position .failed ∨
      skip.Yields setting.withoutSkip position (.matched () position)

/-! ### One way to go -/

section Way

variable (hsetting : setting.IsLibrary)

include hsetting

theorem skipStep_rightUnique : Relator.RightUnique setting.SkipStep := by
  rintro cursor next next' ⟨-, skip, hskip, hyields⟩ ⟨-, skip', hskip', hyields'⟩
  obtain rfl : skip = skip' := Option.some.inj (hskip.symm.trans hskip')
  exact (hyields.matched_inj hyields' hsetting.withoutSkip (hsetting.skip skip hskip)).2

theorem AtRest.not_skipStep (hrest : setting.AtRest rest) : ¬setting.SkipStep rest next := by
  rintro ⟨hlt, skip, hskip, hyields⟩
  have hlibrary : skip.IsLibrary := hsetting.skip skip hskip
  rcases hrest skip hskip with hfailed | hstays
  · exact hyields.not_failed hsetting.withoutSkip hlibrary hfailed
  · obtain ⟨-, rfl⟩ := hyields.matched_inj hstays hsetting.withoutSkip hlibrary
    exact Nat.lt_irrefl _ hlt

theorem AtRest.eq_of_skips (hrest : setting.AtRest rest) (hskips : setting.Skips rest reached) :
    reached = rest := by
  obtain rfl | ⟨next, hstep, -⟩ := hskips.cases_head
  · rfl
  · exact absurd hstep (hrest.not_skipStep hsetting)

/-- Whatever skipping comes past lies on the way to where it rests. -/
theorem Skips.skips_rest (hskips : setting.Skips cursor reached)
    (hway : setting.Skips cursor rest) (hrest : setting.AtRest rest) :
    setting.Skips reached rest := by
  rcases hskips.total_of_right_unique (skipStep_rightUnique hsetting) hway with hon | hback
  · exact hon
  · rw [hrest.eq_of_skips hsetting hback]
    exact .refl

/-- Advancing matches of the skip parser in a row are the first ones of a row that ends at rest. -/
theorem AtRest.isPrefix_of_isChain {cursor : Nat} {stops other : List Nat}
    (hrest : setting.AtRest ((cursor :: stops).getLast (List.cons_ne_nil cursor stops)))
    (hstops : (cursor :: stops).IsChain setting.SkipStep)
    (hother : (cursor :: other).IsChain setting.SkipStep) : other <+: stops := by
  induction other generalizing cursor stops with
  | nil => exact List.nil_prefix
  | cons next other ih =>
    obtain ⟨hstep, hother⟩ := List.isChain_cons_cons.1 hother
    cases stops with
    | nil => exact absurd hstep (hrest.not_skipStep hsetting)
    | cons next' stops =>
      obtain ⟨hstep', hstops⟩ := List.isChain_cons_cons.1 hstops
      obtain rfl := skipStep_rightUnique hsetting hstep hstep'
      exact List.cons_prefix_cons.2 ⟨rfl, ih hrest hstops hother⟩

end Way

end Setting

/-! ### Skipping goes it to its end -/

namespace Parser

variable {ρ : Nat → Type} {setting : Setting ρ} {skip : Parser ρ Unit}

theorem chain_ensures_atRest (hsetting : setting.IsLibrary) (hskip : setting.skip? = some skip)
    (fuel rounds cursor : Nat) :
    (Attempt.chain (skip.run fuel setting.withoutSkip) rounds cursor).Ensures fun _ rest =>
      setting.AtRest rest := by
  have hlibrary : skip.IsLibrary := hsetting.skip skip hskip
  have hrest : ∀ {position}, (skip.Yields setting.withoutSkip position .failed ∨
      skip.Yields setting.withoutSkip position (.matched () position)) →
        setting.AtRest position := by
    intro position hends skip' hskip'
    obtain rfl : skip = skip' := Option.some.inj (hskip.symm.trans hskip')
    exact hends
  induction rounds generalizing cursor with
  | zero => exact .exhausted
  | succ rounds ih =>
    intro progress value rest hmatched
    rw [Attempt.chain, Attempt.resume] at hmatched
    split at hmatched
    · next next after hround =>
      have hyields : skip.Yields setting.withoutSkip cursor (.matched () next) :=
        ⟨fuel, progress, by rw [hround]⟩
      split at hmatched
      · exact ih next after value rest hmatched
      · next hge =>
        cases hmatched
        have hle := (hyields.within hsetting.withoutSkip hlibrary).1
        obtain rfl : cursor = next := by omega
        exact hrest (Or.inr hyields)
    · next after hround =>
      cases hmatched
      exact hrest (Or.inl ⟨fuel, progress, by rw [hround]⟩)
    · cases hmatched

theorem skipFrom_ensures_atRest (hsetting : setting.IsLibrary) (fuel cursor : Nat) :
    (skipFrom fuel setting cursor).Ensures fun _ rest => setting.AtRest rest := by
  cases hskip : setting.skip? with
  | none =>
    rw [skipFrom_of_none hskip]
    refine .matched fun skip hsome => ?_
    rw [hskip] at hsome
    cases hsome
  | some skip =>
    rw [skipFrom_of_some hskip]
    exact chain_ensures_atRest hsetting hskip fuel fuel cursor

end Parser

namespace Setting

variable {ρ : Nat → Type} {setting : Setting ρ} {cursor reached rest : Nat}

section Stops

variable (hsetting : setting.IsLibrary)

include hsetting

theorem SkippingStops.skips_atRest (hstops : setting.SkippingStops cursor rest) :
    setting.Skips cursor rest ∧ setting.AtRest rest := by
  obtain ⟨reach, least, hgives⟩ := hstops
  have hmatched := (hgives least (Nat.le_refl least) ⟨0, []⟩).1
  exact ⟨Parser.skipFrom_ensures_skips least setting cursor ⟨0, []⟩ () rest hmatched,
    Parser.skipFrom_ensures_atRest hsetting least cursor ⟨0, []⟩ () rest hmatched⟩

/-- Skipping ends if the skip parser has an answer wherever skipping comes past. -/
theorem exists_skippingStops
    (hhalts : ∀ skip reached, setting.skip? = some skip → setting.Skips cursor reached →
      skip.Halts setting.withoutSkip reached) : ∃ rest, setting.SkippingStops cursor rest := by
  obtain ⟨outcome, reach, least, hne, hgives⟩ := Parser.skipFrom_settles hsetting hhalts
  have hskipping : setting.SkippingHalts cursor := by
    refine ⟨least, ?_⟩
    rwa [(hgives least (Nat.le_refl least) ⟨0, []⟩).1]
  obtain ⟨rest, reach, hlands⟩ := hskipping.lands hsetting
  exact ⟨rest, reach, hlands⟩

/-- **Where skipping stops:** at the end of the way, where the skip parser is at rest. -/
theorem skippingStops_iff :
    setting.SkippingStops cursor rest ↔ setting.Skips cursor rest ∧ setting.AtRest rest := by
  refine ⟨fun hstops => hstops.skips_atRest hsetting, ?_⟩
  rintro ⟨hway, hrest⟩
  have hhalts : ∀ skip reached, setting.skip? = some skip → setting.Skips cursor reached →
      skip.Halts setting.withoutSkip reached := by
    intro skip reached hskip hreached
    have hlibrary : skip.IsLibrary := hsetting.skip skip hskip
    -- The skip parser answers on the way because it advances there, and at its end by assumption.
    obtain rfl | ⟨next, ⟨-, skip', hskip', hyields⟩, -⟩ :=
      (hreached.skips_rest hsetting hway hrest).cases_head
    · rcases hrest skip hskip with hfailed | hstays
      · exact hfailed.halts (by simp) hsetting.withoutSkip hlibrary
      · exact hstays.halts (by simp) hsetting.withoutSkip hlibrary
    · obtain rfl : skip = skip' := Option.some.inj (hskip.symm.trans hskip')
      exact hyields.halts (by simp) hsetting.withoutSkip hlibrary
  obtain ⟨found, hstops⟩ := exists_skippingStops hsetting hhalts
  obtain ⟨hway', hrest'⟩ := hstops.skips_atRest hsetting
  rwa [← hrest'.eq_of_skips hsetting (hway'.skips_rest hsetting hway hrest)] at hstops

theorem SkippingStops.of_skips (hstops : setting.SkippingStops cursor rest)
    (hskips : setting.Skips cursor reached) : setting.SkippingStops reached rest := by
  obtain ⟨hway, hrest⟩ := hstops.skips_atRest hsetting
  exact (skippingStops_iff hsetting).2 ⟨hskips.skips_rest hsetting hway hrest, hrest⟩

end Stops

end Setting

/-! ### Tokens behind what is skipped -/

namespace Parser

variable {ρ : Nat → Type} {α : Type} {setting : Setting ρ} {wanted : Primitive α}
  {cursor rest : Nat}

/-- What a primitive comes to at a position where nothing more is skipped. -/
def taken (setting : Setting ρ) (wanted : Primitive α) (position : Nat) : Outcome α :=
  match (setting.tokenAt position).bind wanted.decode with
  | some value => .matched value (position + 1)
  | none => .failed

theorem taken_ne_exhausted (setting : Setting ρ) (wanted : Primitive α) (position : Nat) :
    taken setting wanted position ≠ .exhausted := by
  unfold taken
  split <;> nofun

theorem answers_taken (hstops : setting.SkippingStops cursor rest) (wanted : Primitive α) :
    ∃ reach, (primitive wanted).Answers setting cursor (taken setting wanted rest) reach := by
  obtain ⟨reach, hlands⟩ := hstops
  unfold taken
  rw [Setting.tokenAt_eq_getElem?]
  split
  · next value hdecode =>
    obtain ⟨token, htoken, hvalue⟩ := Option.bind_eq_some_iff.1 hdecode
    exact ⟨reach, .primitive hlands htoken hvalue⟩
  · next hdecode =>
    exact ⟨_, .primitive_of_failed hlands (Option.bind_eq_none_iff.1 hdecode)⟩

/-- A primitive takes or refuses the token where skipping stops. -/
theorem yields_primitive_iff (hsetting : setting.IsLibrary)
    (hstops : setting.SkippingStops cursor rest) {outcome : Outcome α}
    (hne : outcome ≠ .exhausted) :
    (primitive wanted).Yields setting cursor outcome ↔ outcome = taken setting wanted rest := by
  obtain ⟨reach, hanswers⟩ := answers_taken hstops wanted
  constructor
  · intro hyields
    exact hyields.unique hanswers.yields hne (taken_ne_exhausted setting wanted rest) hsetting
      trivial
  · rintro rfl
    exact hanswers.yields

end Parser

namespace Setting

variable {ρ : Nat → Type}

/-- **Skipping comes to rest.** Let the skip parser halt wherever skipping from the cursor comes
past. Then skipping stops at a position, whatever was refused before. It lies between the cursor and
the end bound, unless the cursor is past that. The skip parser fails there or does not advance, and
there ends the one row of advancing matches: any other row from the cursor is the beginning of it.
From every position on the way, the first and the last included, skipping stops at the same place,
and a token is taken or refused there. -/
theorem skipping_comes_to_rest (setting : Setting ρ) (cursor : Nat) (hsetting : setting.IsLibrary)
    (hhalts : ∀ skip reached, setting.skip? = some skip → setting.Skips cursor reached →
      skip.Halts setting.withoutSkip reached) :
    ∃ rest, setting.SkippingStops cursor rest ∧
      cursor ≤ rest ∧ rest ≤ max cursor setting.finish ∧
      (∀ skip, setting.skip? = some skip →
        skip.Yields setting.withoutSkip rest .failed ∨
          skip.Yields setting.withoutSkip rest (.matched () rest)) ∧
      (∃ stops, (cursor :: stops).IsChain setting.SkipStep ∧
        (cursor :: stops).getLast (List.cons_ne_nil cursor stops) = rest ∧
        ∀ other, (cursor :: other).IsChain setting.SkipStep → other <+: stops) ∧
      setting.Skips cursor rest ∧
      ∀ reached, setting.Skips cursor reached → setting.SkippingStops reached rest ∧
        ∀ (α : Type) (wanted : Primitive α) (outcome : Outcome α), outcome ≠ .exhausted →
          ((Parser.primitive wanted).Yields setting reached outcome ↔
            outcome = Parser.taken setting wanted rest) := by
  obtain ⟨rest, hstops⟩ := exists_skippingStops hsetting hhalts
  obtain ⟨hway, hrest⟩ := hstops.skips_atRest hsetting
  obtain ⟨hle, hlimit⟩ := hway.within hsetting
  refine ⟨rest, hstops, hle, hlimit, hrest, ?_, hway, ?_⟩
  · obtain ⟨stops, hchain, hlast⟩ := List.exists_isChain_cons_of_relationReflTransGen hway
    refine ⟨stops, hchain, hlast, fun other hother => ?_⟩
    rw [← hlast] at hrest
    exact hrest.isPrefix_of_isChain hsetting hchain hother
  · intro reached hreached
    have hstops' := hstops.of_skips hsetting hreached
    exact ⟨hstops', fun α wanted outcome hne => Parser.yields_primitive_iff hsetting hstops' hne⟩

/-- Two blanks before a letter, under a skip parser that can match nothing: it rests at the letter,
where it matches without advancing. The letter is taken from all three positions. -/
theorem skipping_comes_to_rest_at_letter :
    let letter : Primitive String := ⟨⟨0, "letter", some⟩, none⟩
    let skip : Parser String Unit :=
      .discard (.optional (.token ⟨1, "blank", fun _ => some ()⟩ : Parser String Unit))
    let tokens : TokenSequence := ⟨#[⟨1, "blank", " ", .ofOffsets 0 1⟩,
      ⟨1, "blank", "\t", .ofOffsets 1 2⟩, ⟨0, "letter", "a", .ofOffsets 2 3⟩], 3⟩
    let setting := Setting.new tokens 3 Grammar.empty (some skip)
    setting.SkippingStops 0 2 ∧ setting.SkippingStops 2 2 ∧ setting.Skips 0 1 ∧
      ∀ reached, setting.Skips 0 reached →
        (Parser.primitive letter).Yields setting reached (.matched "a" 3) := by
  intro letter skip tokens setting
  have hlibrary : skip.IsLibrary := trivial
  have hsetting : setting.IsLibrary := ⟨nofun, fun _ => hlibrary.of_some_eq⟩
  have hanswers : ∀ position ≤ 3,
      (skip.run 8 setting.withoutSkip position ⟨0, []⟩).1 ≠ .exhausted := by decide
  have hhalts : ∀ skip' reached, setting.skip? = some skip' → setting.Skips 0 reached →
      skip'.Halts setting.withoutSkip reached := by
    rintro _ reached ⟨⟩ hreached
    exact ⟨8, hanswers reached (hreached.within hsetting).2⟩
  have hfirst : setting.SkipStep 0 1 := ⟨by decide, skip, rfl, 8, ⟨0, []⟩, by rfl⟩
  have hsecond : setting.SkipStep 1 2 := ⟨by decide, skip, rfl, 8, ⟨0, []⟩, by rfl⟩
  have hrests : setting.AtRest 2 := by
    rintro _ ⟨⟩
    exact Or.inr ⟨8, ⟨0, []⟩, by rfl⟩
  obtain ⟨rest, hstops, -, -, hrest, -, hway, hon⟩ :=
    skipping_comes_to_rest setting 0 hsetting hhalts
  have hskips : setting.Skips 0 2 := .head hfirst (.single hsecond)
  obtain rfl : rest = 2 :=
    (hskips.skips_rest hsetting hway hrest |> hrests.eq_of_skips hsetting)
  refine ⟨hstops, (hon 2 hskips).1, .single hfirst, fun reached hreached => ?_⟩
  exact ((hon reached hreached).2 String letter _ (by simp)).2 rfl

end Setting

end TokenGrammar
