import TokenGrammar.Proofs.Parser.Halting

/-!
# What the furthest position covers

An attempt comes past many positions, and most of the matches on its way may be given up again. What
is noted are only the positions of refused tokens, and at last the end of the whole match. Still
nearly everything that was matched is covered: a match is given up because something behind it
fails, and to fail is to refuse a token there. Two attempts fail without that, an exclusion both of
whose sides match and a rule that is not in the grammar. What was matched up to these may be lost.
-/

namespace TokenGrammar

namespace Attempt

variable {α β : Type}

/-- The furthest position that shows at the end of an attempt: a refused token, or the end of the
match. -/
def noted : Outcome α × Progress → Nat
  | (.matched _ next, progress) => max next progress.furthest
  | (_, progress) => progress.furthest

theorem furthest_le_noted (result : Outcome α × Progress) : result.2.furthest ≤ noted result := by
  obtain ⟨outcome, progress⟩ := result
  cases outcome with
  | matched value next => exact Nat.le_max_right _ _
  | failed => exact Nat.le_refl _
  | exhausted => exact Nat.le_refl _

/-- When the attempt ends, no position that was reached is beyond the noted one unless it is lost,
and what was noted before is kept. -/
def Covers (attempt : Attempt α) (reached lost : Nat → Prop) : Prop :=
  ∀ before, (attempt before).1 ≠ .exhausted →
    before.furthest ≤ (attempt before).2.furthest ∧
      ∀ n, reached n → n ≤ noted (attempt before) ∨ lost n

namespace Covers

variable {attempt alternative : Attempt α} {onMatch : α → Nat → Attempt β} {onFailure : Attempt β}
  {reached reached' all lost lost' : Nat → Prop}

theorem mono (h : attempt.Covers reached lost) (himp : ∀ n, reached' n → reached n) :
    attempt.Covers reached' lost := by
  intro before hends
  obtain ⟨hle, hcovers⟩ := h before hends
  exact ⟨hle, fun n hn => hcovers n (himp n hn)⟩

theorem lose (h : attempt.Covers reached lost) (himp : ∀ n, lost n → lost' n) :
    attempt.Covers reached lost' := by
  intro before hends
  obtain ⟨hle, hcovers⟩ := h before hends
  exact ⟨hle, fun n hn => (hcovers n hn).imp_right (himp n)⟩

theorem exhausted : (Attempt.exhausted : Attempt α).Covers reached lost :=
  fun _ hends => absurd rfl hends

theorem matched (value : α) {next : Nat} (h : ∀ n, reached n → n ≤ next) :
    (Attempt.matched value next).Covers reached lost :=
  fun _ _ => ⟨Nat.le_refl _, fun n hn => Or.inl ((h n hn).trans (Nat.le_max_left _ _))⟩

theorem failed (h : ∀ n, reached n → lost n) : (Attempt.failed : Attempt α).Covers reached lost :=
  fun _ _ => ⟨Nat.le_refl _, fun n hn => Or.inr (h n hn)⟩

theorem refused {position : Nat} (h : ∀ n, reached n → n ≤ position) :
    (Attempt.refused position : Attempt α).Covers reached lost :=
  fun _ _ => ⟨Nat.le_max_left _ _, fun n hn => Or.inl ((h n hn).trans (Nat.le_max_right _ _))⟩

theorem after (event : Event) (h : attempt.Covers reached lost) :
    (attempt.after event).Covers reached lost :=
  fun before => h (before.record event)

/-- Of all positions, those that the attempt does not cover itself have to be covered by what comes
after it, and so has the end of its match. -/
theorem resume (h : attempt.Covers reached lost)
    (hmatch : ∀ value next, (∃ before, (attempt before).1 = .matched value next) →
      (onMatch value next).Covers (fun n => n ≤ next ∨ all n ∧ ¬reached n) lost)
    (hfail : (∃ before, (attempt before).1 = .failed) →
      onFailure.Covers (fun n => all n ∧ ¬reached n) lost) :
    (attempt.resume onMatch onFailure).Covers all lost := by
  intro before hends
  have hfirst := h before
  unfold Attempt.resume at hends ⊢
  split at hends
  · next value next middle hattempt =>
    rw [hattempt] at hfirst
    obtain ⟨hle, hcovers⟩ := hfirst (by simp)
    obtain ⟨hle', hcovers'⟩ := hmatch value next ⟨before, by rw [hattempt]⟩ middle hends
    have hnoted := furthest_le_noted (onMatch value next middle)
    refine ⟨hle.trans hle', fun n hn => ?_⟩
    by_cases hreached : reached n
    · obtain hmax | hlost := hcovers n hreached
      · obtain hnext | hrefused := le_max_iff.1 hmax
        · exact hcovers' n (Or.inl hnext)
        · exact Or.inl (hrefused.trans (hle'.trans hnoted))
      · exact Or.inr hlost
    · exact hcovers' n (Or.inr ⟨hn, hreached⟩)
  · next middle hattempt =>
    rw [hattempt] at hfirst
    obtain ⟨hle, hcovers⟩ := hfirst (by simp)
    obtain ⟨hle', hcovers'⟩ := hfail ⟨before, by rw [hattempt]⟩ middle hends
    have hnoted := furthest_le_noted (onFailure middle)
    refine ⟨hle.trans hle', fun n hn => ?_⟩
    by_cases hreached : reached n
    · obtain hrefused | hlost := hcovers n hreached
      · exact Or.inl (hrefused.trans (hle'.trans hnoted))
      · exact Or.inr hlost
    · exact hcovers' n ⟨hn, hreached⟩
  · exact absurd rfl hends

theorem andThen (h : attempt.Covers reached lost)
    (hmatch : ∀ value next, (∃ before, (attempt before).1 = .matched value next) →
      (onMatch value next).Covers (fun n => n ≤ next ∨ all n ∧ ¬reached n) lost)
    (hfail : (∃ before, (attempt before).1 = .failed) → ∀ n, ¬(all n ∧ ¬reached n)) :
    (attempt.andThen onMatch).Covers all lost :=
  h.resume hmatch fun hfailed => failed fun n hn => absurd hn (hfail hfailed n)

theorem orElse (h : attempt.Covers reached lost)
    (hmatch : (∃ before value next, (attempt before).1 = .matched value next) →
      ∀ n, ¬(all n ∧ ¬reached n))
    (hfail : (∃ before, (attempt before).1 = .failed) →
      alternative.Covers (fun n => all n ∧ ¬reached n) lost) :
    (attempt.orElse alternative).Covers all lost := by
  refine h.resume (fun value next hmatched => matched value ?_) hfail
  rintro n (hle | hrest)
  · exact hle
  · obtain ⟨before, hbefore⟩ := hmatched
    exact absurd hrest (hmatch ⟨before, value, next, hbefore⟩ n)

theorem map (f : α → β) (h : attempt.Covers reached lost) :
    (attempt.map f).Covers reached lost := by
  refine h.andThen (fun value next _ => matched (f value) ?_) fun _ n hn => hn.2 hn.1
  rintro n (hle | ⟨hn, hnot⟩)
  · exact hle
  · exact absurd hn hnot

theorem enter (name : String) (cursor : Nat) (h : attempt.Covers reached lost) :
    (Parser.enter name cursor attempt).Covers reached lost := by
  refine after _ (h.resume (fun value next _ => after _ (matched value ?_)) fun _ => after _ ?_)
  · rintro n (hle | ⟨hn, hnot⟩)
    · exact hle
    · exact absurd hn hnot
  · exact failed fun n hn => absurd hn.1 hn.2

end Covers

end Attempt

namespace Parser

variable {ρ : Nat → Type} {setting : Setting ρ}

/-! ### Positions that an attempt comes to -/

/-- An attempt that fails without a token refused, and the furthest position where a part of it
matched. -/
inductive Drops (setting : Setting ρ) : Stage ρ → Nat → Prop where
  | excluded {skipping : Bool} {α β : Type} {inner : Parser ρ α} {excluded : Parser ρ β}
      {cursor next next' : Nat} {value : α} {value' : β}
      (hinner : inner.Yields (withSkipping setting skipping) cursor (.matched value next))
      (hexcluded : excluded.Yields (withSkipping setting skipping) cursor (.matched value' next')) :
      Drops setting ⟨skipping, ⟨α, exclude inner excluded⟩, cursor⟩ (max next next')
  | unknown {skipping : Bool} {handle : Rule} {cursor : Nat}
      (hbody : setting.grammar.body? handle = none) :
      Drops setting ⟨skipping, ⟨ρ handle.output, rule handle⟩, cursor⟩ cursor

/-- The end of a match that is made in the course of an attempt, or a position up to where the
attempt starts. -/
def Reached (setting : Setting ρ) (stage : Stage ρ) (n : Nat) : Prop :=
  n ≤ stage.cursor ∨ ∃ made, Makes setting stage made ∧
    ∃ value, made.Yields setting (.matched value n)

/-- In the course of an attempt, another one at this position or further on fails without a token
refused. -/
def Lost (setting : Setting ρ) (stage : Stage ρ) (n : Nat) : Prop :=
  ∃ made position, Makes setting stage made ∧ Drops setting made position ∧ n ≤ position

theorem Lost.of_tries {stage next : Stage ρ} {n : Nat} (htries : Tries setting stage next)
    (hlost : Lost setting next n) : Lost setting stage n := by
  obtain ⟨made, position, hmakes, hdrops, hle⟩ := hlost
  exact ⟨made, position, hmakes.head htries, hdrops, hle⟩

theorem Drops.lost {stage : Stage ρ} {n position : Nat} (hdrops : Drops setting stage position)
    (hle : n ≤ position) : Lost setting stage n :=
  ⟨stage, position, .refl, hdrops, hle⟩

theorem Yields.unique {α : Type} {parser : Parser ρ α} {cursor : Nat} {outcome outcome' : Outcome α}
    (h : parser.Yields setting cursor outcome) (h' : parser.Yields setting cursor outcome')
    (hne : outcome ≠ .exhausted) (hne' : outcome' ≠ .exhausted) (hsetting : setting.IsLibrary)
    (hparser : parser.IsLibrary) : outcome = outcome' := by
  obtain ⟨fuel, progress, rfl⟩ := h
  obtain ⟨fuel', progress', rfl⟩ := h'
  rw [run_outcome_eq hsetting hparser fuel' cursor progress' progress] at hne' ⊢
  rw [run_eq_of_ne_exhausted hsetting hparser hne hne']

theorem Yields.halts {α : Type} {parser : Parser ρ α} {cursor : Nat} {outcome : Outcome α}
    (h : parser.Yields setting cursor outcome) (hne : outcome ≠ .exhausted)
    (hsetting : setting.IsLibrary) (hparser : parser.IsLibrary) : parser.Halts setting cursor := by
  obtain ⟨fuel, progress, rfl⟩ := h
  refine ⟨fuel, ?_⟩
  rwa [run_outcome_eq hsetting hparser fuel cursor ⟨0, []⟩ progress]

theorem Yields.answers {α : Type} {parser : Parser ρ α} {cursor : Nat} {outcome : Outcome α}
    (h : parser.Yields setting cursor outcome) (hne : outcome ≠ .exhausted)
    (hsetting : setting.IsLibrary) (hparser : parser.IsLibrary) :
    ∃ reach, parser.Answers setting cursor outcome reach := by
  obtain ⟨outcome', reach, hne', hanswers⟩ :=
    (h.halts hne hsetting hparser).answers hsetting hparser
  obtain rfl := h.unique hanswers.yields hne hne' hsetting hparser
  exact ⟨reach, hanswers⟩

theorem Yields.matched_inj {α : Type} {parser : Parser ρ α} {cursor next next' : Nat}
    {value value' : α} (h : parser.Yields setting cursor (.matched value next))
    (h' : parser.Yields setting cursor (.matched value' next')) (hsetting : setting.IsLibrary)
    (hparser : parser.IsLibrary) : value = value' ∧ next = next' := by
  cases h.unique h' (by simp) (by simp) hsetting hparser
  exact ⟨rfl, rfl⟩

theorem Yields.not_failed {α : Type} {parser : Parser ρ α} {cursor next : Nat} {value : α}
    (h : parser.Yields setting cursor (.matched value next)) (hsetting : setting.IsLibrary)
    (hparser : parser.IsLibrary) : ¬parser.Yields setting cursor .failed := by
  intro h'
  cases h.unique h' (by simp) (by simp) hsetting hparser

/-- One parser, and where it matches, another one from there on. -/
def InTurn (setting : Setting ρ) (skipping : Bool) {α β : Type} (first : Parser ρ α)
    (second : Parser ρ β) (cursor : Nat) (next : Stage ρ) : Prop :=
  next = ⟨skipping, ⟨α, first⟩, cursor⟩ ∨ ∃ value middle,
    first.Yields (withSkipping setting skipping) cursor (.matched value middle) ∧
      next = ⟨skipping, ⟨β, second⟩, middle⟩

/-- One parser, and where it fails, another one instead. -/
def Instead (setting : Setting ρ) (skipping : Bool) {α β : Type} (first : Parser ρ α)
    (second : Parser ρ β) (cursor : Nat) (next : Stage ρ) : Prop :=
  next = ⟨skipping, ⟨α, first⟩, cursor⟩ ∨
    first.Yields (withSkipping setting skipping) cursor .failed ∧
      next = ⟨skipping, ⟨β, second⟩, cursor⟩

/-- The attempts that `Tries` has for a parser, by the form of the parser. -/
def Attempts (setting : Setting ρ) (skipping : Bool) :
    {α : Type} → Parser ρ α → Nat → Stage ρ → Prop
  | _, primitive _, cursor, next => skipping = true ∧ ∃ skip reached,
      setting.skip? = some skip ∧ setting.Skips cursor reached ∧
        next = ⟨false, ⟨Unit, skip⟩, reached⟩
  | _, seq first second, cursor, next => InTurn setting skipping first second cursor next
  | _, thenIgnore first second, cursor, next => InTurn setting skipping first second cursor next
  | _, ignoreThen first second, cursor, next => InTurn setting skipping first second cursor next
  | _, alt first second, cursor, next => Instead setting skipping first second cursor next
  | _, either first second, cursor, next => Instead setting skipping first second cursor next
  | _, @many _ α item, cursor, next => next = ⟨skipping, ⟨α, item⟩, cursor⟩ ∨ ∃ value middle,
      item.Yields (withSkipping setting skipping) cursor (.matched value middle) ∧
        cursor < middle ∧ next = ⟨skipping, ⟨List α, many item⟩, middle⟩
  | _, @many1 _ α item, cursor, next => next = ⟨skipping, ⟨List α, many item⟩, cursor⟩
  | _, @exclude _ α β inner excluded, cursor, next => next = ⟨skipping, ⟨α, inner⟩, cursor⟩ ∨
      (∃ value middle,
        inner.Yields (withSkipping setting skipping) cursor (.matched value middle)) ∧
        next = ⟨skipping, ⟨β, excluded⟩, cursor⟩
  | _, @discard _ α inner, cursor, next => next = ⟨skipping, ⟨α, inner⟩, cursor⟩
  | _, @optional _ α inner, cursor, next => next = ⟨skipping, ⟨α, inner⟩, cursor⟩
  | _, @map _ α _ _ inner, cursor, next => next = ⟨skipping, ⟨α, inner⟩, cursor⟩
  | _, rule handle, cursor, next => ∃ body, setting.grammar.body? handle = some body ∧
      next = ⟨skipping, ⟨ρ handle.output, body⟩, cursor⟩
  | _, unskipped _, _, _ => False
  | _, custom _, _, _ => False

theorem Tries.attempts {skipping : Bool} {α : Type} {parser : Parser ρ α} {cursor : Nat}
    {next : Stage ρ} (htries : Tries setting ⟨skipping, ⟨α, parser⟩, cursor⟩ next) :
    parser.Attempts setting skipping cursor next := by
  cases htries with
  | skips hskip hreached => exact ⟨rfl, _, _, hskip, hreached, rfl⟩
  | begins hbegins =>
    cases hbegins with
    | seq | thenIgnore | ignoreThen | alt | either | many | exclude => exact Or.inl rfl
    | many1 | discard | optional | map => rfl
    | rule hbody => exact ⟨_, hbody, rfl⟩
  | follows hfollows hfirst => cases hfollows <;> exact Or.inr ⟨_, _, hfirst, rfl⟩
  | repeats hitem hadvance => exact Or.inr ⟨_, _, hitem, hadvance, rfl⟩
  | chooses hchooses hfirst => cases hchooses <;> exact Or.inr ⟨hfirst, rfl⟩
  | excludes hinner => exact Or.inr ⟨⟨_, _, hinner⟩, rfl⟩

/-- A position that an attempt comes to in the attempts that it makes itself. -/
def ReachedWithin (setting : Setting ρ) (skipping : Bool) {α : Type} (parser : Parser ρ α)
    (cursor n : Nat) : Prop :=
  n ≤ cursor ∨ ∃ next, parser.Attempts setting skipping cursor next ∧ Reached setting next n

/-- What is not reached by the attempt that is made first is reached by another one. -/
theorem exists_other {skipping : Bool} {α : Type} {first : Parser ρ α} {cursor n : Nat}
    {others : Stage ρ → Prop}
    (h : (n ≤ cursor ∨ ∃ next, (next = ⟨skipping, ⟨α, first⟩, cursor⟩ ∨ others next) ∧
        Reached setting next n) ∧ ¬Reached setting ⟨skipping, ⟨α, first⟩, cursor⟩ n) :
    ∃ next, others next ∧ Reached setting next n := by
  obtain ⟨hstart | ⟨next, rfl | hother, hreached⟩, hnot⟩ := h
  · exact absurd (Or.inl hstart) hnot
  · exact absurd hreached hnot
  · exact ⟨next, hother, hreached⟩

theorem covers_of_within (hsetting : setting.IsLibrary) {fuel : Nat} {skipping : Bool} {α : Type}
    {parser : Parser ρ α} (hparser : parser.IsLibrary) {cursor : Nat} {lost : Nat → Prop}
    (h : (parser.run fuel (withSkipping setting skipping) cursor).Covers
      (parser.ReachedWithin setting skipping cursor) lost) :
    (parser.run fuel (withSkipping setting skipping) cursor).Covers
      (Reached setting ⟨skipping, ⟨α, parser⟩, cursor⟩) lost := by
  intro before hends
  obtain ⟨hle, hcovers⟩ := h before hends
  refine ⟨hle, fun n hn => ?_⟩
  obtain hstart | ⟨made, hmakes, value, hyields⟩ := hn
  · exact hcovers n (Or.inl hstart)
  · obtain rfl | ⟨next, htries, hmakes⟩ := hmakes.cases_head
    · -- The match of the attempt itself is the one that it ends with.
      have hown : parser.Yields (withSkipping setting skipping) cursor
          (parser.run fuel (withSkipping setting skipping) cursor before).1 := ⟨fuel, before, rfl⟩
      have hsame := Yields.unique hown hyields hends (by simp)
        (withSkipping_isLibrary hsetting skipping) hparser
      left
      generalize parser.run fuel (withSkipping setting skipping) cursor before = result at hsame ⊢
      obtain ⟨outcome, progress⟩ := result
      obtain rfl : outcome = _ := hsame
      exact Nat.le_max_left _ _
    · exact hcovers n (Or.inr ⟨next, htries.attempts, Or.inr ⟨made, hmakes, value, hyields⟩⟩)

/-! ### What one attempt covers -/

theorem take_covers {α : Type} (setting : Setting ρ) (wanted : Primitive α) {cursor : Nat}
    {reached lost : Nat → Prop} (h : ∀ n, reached n → n ≤ cursor) :
    (take setting wanted cursor).Covers reached lost := by
  unfold take
  split
  · exact .refused h
  · split
    · exact .refused h
    · exact .after _ (.matched _ fun n hn => (h n hn).trans (Nat.le_succ cursor))

/-- What skipping does not reach in its first round it reaches later, and the round advances. -/
theorem exists_later_round (hsetting : setting.IsLibrary) {skip : Parser ρ Unit}
    (hskip : setting.skip? = some skip) {cursor n : Nat} {outcome : Outcome Unit}
    (hyields : skip.Yields setting.withoutSkip cursor outcome) (hends : outcome ≠ .exhausted)
    (h : (n ≤ cursor ∨ ∃ reached, setting.Skips cursor reached ∧
        Reached setting ⟨false, ⟨Unit, skip⟩, reached⟩ n) ∧
      ¬Reached setting ⟨false, ⟨Unit, skip⟩, cursor⟩ n) :
    ∃ next reached, outcome = .matched () next ∧ cursor < next ∧ setting.Skips next reached ∧
      Reached setting ⟨false, ⟨Unit, skip⟩, reached⟩ n := by
  obtain ⟨hstart | ⟨reached, hskips, hreached⟩, hnot⟩ := h
  · exact absurd (Or.inl hstart) hnot
  · obtain rfl | ⟨next, ⟨hlt, skip', hskip', hyields'⟩, hskips⟩ := hskips.cases_head
    · exact absurd hreached hnot
    · obtain rfl : skip = skip' := Option.some.inj (hskip.symm.trans hskip')
      have hsame := hyields.unique hyields' hends (by simp) hsetting.withoutSkip
        (hsetting.skip skip hskip)
      exact ⟨next, reached, hsame, hlt, hskips, hreached⟩

theorem chain_covers (hsetting : setting.IsLibrary) {skip : Parser ρ Unit}
    (hskip : setting.skip? = some skip) {fuel : Nat} {lost : Nat → Prop} (rounds cursor : Nat)
    (hround : ∀ reached, setting.Skips cursor reached →
      (skip.run fuel setting.withoutSkip reached).Covers
        (Reached setting ⟨false, ⟨Unit, skip⟩, reached⟩) lost) :
    (Attempt.chain (skip.run fuel setting.withoutSkip) rounds cursor).Covers
      (fun n => n ≤ cursor ∨ ∃ reached, setting.Skips cursor reached ∧
        Reached setting ⟨false, ⟨Unit, skip⟩, reached⟩ n) lost := by
  induction rounds generalizing cursor with
  | zero => exact .exhausted
  | succ rounds ih =>
    rw [Attempt.chain]
    refine (hround cursor .refl).resume ?_ ?_
    · rintro ⟨⟩ next ⟨before, hmatched⟩
      have hyields : skip.Yields setting.withoutSkip cursor (.matched () next) :=
        ⟨fuel, before, hmatched⟩
      split
      · next hlt =>
        have hstep : setting.SkipStep cursor next := ⟨hlt, skip, hskip, hyields⟩
        refine (ih next fun reached hskips => hround reached (hskips.head hstep)).mono ?_
        rintro n (hle | hrest)
        · exact Or.inl hle
        · obtain ⟨_, reached, ⟨⟩, -, hskips, hreached⟩ :=
            exists_later_round hsetting hskip hyields (by simp) hrest
          exact Or.inr ⟨reached, hskips, hreached⟩
      · next hge =>
        refine .matched () ?_
        rintro n (hle | hrest)
        · omega
        · obtain ⟨_, _, ⟨⟩, hlt, -⟩ := exists_later_round hsetting hskip hyields (by simp) hrest
          exact absurd hlt hge
    · rintro ⟨before, hfailed⟩
      refine .matched () fun n hrest => ?_
      have hyields : skip.Yields setting.withoutSkip cursor .failed := ⟨fuel, before, hfailed⟩
      obtain ⟨_, _, ⟨⟩, -⟩ := exists_later_round hsetting hskip hyields (by simp) hrest

section Step

variable {skipping : Bool} {α β γ : Type} {first : Parser ρ α} {second : Parser ρ β}
  {cursor fuel : Nat} {lost : Nat → Prop}

variable (hsetting : setting.IsLibrary) (hfirst : first.IsLibrary)
  (hcovers : (first.run fuel (withSkipping setting skipping) cursor).Covers
    (Reached setting ⟨skipping, ⟨α, first⟩, cursor⟩) lost)

include hsetting hfirst hcovers

theorem andThen_covers {onMatch : α → Nat → Attempt γ}
    (hmatch : ∀ value middle,
      first.Yields (withSkipping setting skipping) cursor (.matched value middle) →
        (onMatch value middle).Covers (Reached setting ⟨skipping, ⟨β, second⟩, middle⟩) lost) :
    ((first.run fuel (withSkipping setting skipping) cursor).andThen onMatch).Covers
      (fun n => n ≤ cursor ∨ ∃ next, InTurn setting skipping first second cursor next ∧
        Reached setting next n) lost := by
  have hwith := withSkipping_isLibrary hsetting skipping
  refine hcovers.andThen ?_ ?_
  · rintro value middle ⟨before, hmatched⟩
    have hyields : first.Yields (withSkipping setting skipping) cursor (.matched value middle) :=
      ⟨fuel, before, hmatched⟩
    refine (hmatch value middle hyields).mono ?_
    rintro n (hle | hrest)
    · exact Or.inl hle
    · obtain ⟨_, ⟨value', middle', hyields', rfl⟩, hreached⟩ := exists_other hrest
      obtain ⟨rfl, rfl⟩ := hyields.matched_inj hyields' hwith hfirst
      exact hreached
  · rintro ⟨before, hfailed⟩ n hrest
    obtain ⟨_, ⟨value', middle', hyields', -⟩, -⟩ := exists_other hrest
    exact hyields'.not_failed hwith hfirst ⟨fuel, before, hfailed⟩

omit hcovers in
theorem orElse_covers {attempt alternative : Attempt γ}
    (hattempt : attempt.Covers (Reached setting ⟨skipping, ⟨α, first⟩, cursor⟩) lost)
    (hends : attempt.Ensures fun _ next => ∃ value,
      first.Yields (withSkipping setting skipping) cursor (.matched value next))
    (hfails : ∀ before, (attempt before).1 = .failed →
      first.Yields (withSkipping setting skipping) cursor .failed)
    (halternative : first.Yields (withSkipping setting skipping) cursor .failed →
      alternative.Covers (Reached setting ⟨skipping, ⟨β, second⟩, cursor⟩) lost) :
    (attempt.orElse alternative).Covers
      (fun n => n ≤ cursor ∨ ∃ next, Instead setting skipping first second cursor next ∧
        Reached setting next n) lost := by
  have hwith := withSkipping_isLibrary hsetting skipping
  refine hattempt.orElse ?_ ?_
  · rintro ⟨before, found, middle, hmatched⟩ n hrest
    obtain ⟨_, ⟨hfailed, -⟩, -⟩ := exists_other hrest
    obtain ⟨value, hyields⟩ := hends before found middle hmatched
    exact hyields.not_failed hwith hfirst hfailed
  · rintro ⟨before, hfailed⟩
    refine (halternative (hfails before hfailed)).mono fun n hrest => ?_
    obtain ⟨_, ⟨-, rfl⟩, hreached⟩ := exists_other hrest
    exact hreached

theorem many_covers
    (hrepeats : ∀ value middle,
      first.Yields (withSkipping setting skipping) cursor (.matched value middle) →
        cursor < middle → ((many first).run fuel (withSkipping setting skipping) middle).Covers
          (Reached setting ⟨skipping, ⟨List α, many first⟩, middle⟩) lost) :
    ((many first).run (fuel + 1) (withSkipping setting skipping) cursor).Covers
      ((many first).ReachedWithin setting skipping cursor) lost := by
  have hwith := withSkipping_isLibrary hsetting skipping
  rw [run_many]
  refine hcovers.resume ?_ ?_
  · rintro value middle ⟨before, hmatched⟩
    have hyields : first.Yields (withSkipping setting skipping) cursor (.matched value middle) :=
      ⟨fuel, before, hmatched⟩
    split
    · next hlt =>
      refine ((hrepeats value middle hyields hlt).map _).mono ?_
      rintro n (hle | hrest)
      · exact Or.inl hle
      · obtain ⟨_, ⟨value', middle', hyields', -, rfl⟩, hreached⟩ := exists_other hrest
        obtain ⟨rfl, rfl⟩ := hyields.matched_inj hyields' hwith hfirst
        exact hreached
    · next hge =>
      refine .matched _ ?_
      rintro n (hle | hrest)
      · omega
      · obtain ⟨_, ⟨value', middle', hyields', hlt, -⟩, -⟩ := exists_other hrest
        obtain ⟨rfl, rfl⟩ := hyields.matched_inj hyields' hwith hfirst
        exact absurd hlt hge
  · rintro ⟨before, hfailed⟩
    refine .matched _ fun n hrest => ?_
    obtain ⟨_, ⟨value', middle', hyields', -⟩, -⟩ := exists_other hrest
    exact absurd ⟨fuel, before, hfailed⟩ (hyields'.not_failed hwith hfirst)

theorem exclude_covers
    (hexcluded : ∀ value middle,
      first.Yields (withSkipping setting skipping) cursor (.matched value middle) →
        (second.run fuel (withSkipping setting skipping) cursor).Covers
          (Reached setting ⟨skipping, ⟨β, second⟩, cursor⟩) lost)
    (hlost : ∀ n position, Drops setting ⟨skipping, ⟨α, exclude first second⟩, cursor⟩ position →
      n ≤ position → lost n) :
    ((exclude first second).run (fuel + 1) (withSkipping setting skipping) cursor).Covers
      ((exclude first second).ReachedWithin setting skipping cursor) lost := by
  have hwith := withSkipping_isLibrary hsetting skipping
  rw [run_exclude]
  refine hcovers.andThen ?_ ?_
  · rintro value middle ⟨before, hmatched⟩
    have hyields : first.Yields (withSkipping setting skipping) cursor (.matched value middle) :=
      ⟨fuel, before, hmatched⟩
    have hown : ∀ n, (n ≤ middle ∨ (exclude first second).ReachedWithin setting skipping cursor n ∧
        ¬Reached setting ⟨skipping, ⟨α, first⟩, cursor⟩ n) ∧
        ¬Reached setting ⟨skipping, ⟨β, second⟩, cursor⟩ n → n ≤ middle := by
      rintro n ⟨hle | hrest, hnot⟩
      · exact hle
      · obtain ⟨_, ⟨-, rfl⟩, hreached⟩ := exists_other hrest
        exact absurd hreached hnot
    refine (hexcluded value middle hyields).resume ?_ fun _ => .matched value hown
    -- Both sides match: nothing is noted where they end.
    rintro value' middle' ⟨before', hmatched'⟩
    have hdrops : Drops setting ⟨skipping, ⟨α, exclude first second⟩, cursor⟩
        (max middle middle') := .excluded hyields ⟨fuel, before', hmatched'⟩
    refine .failed fun n hn => hlost n _ hdrops (le_max_iff.2 ?_)
    exact hn.symm.imp_left (hown n)
  · rintro ⟨before, hfailed⟩ n hrest
    obtain ⟨_, ⟨⟨value, middle, hyields'⟩, -⟩, -⟩ := exists_other hrest
    exact hyields'.not_failed hwith hfirst ⟨fuel, before, hfailed⟩

end Step

theorem Reached.of_alone {skipping : Bool} {α : Type} {inner : Parser ρ α} {cursor n : Nat}
    (h : n ≤ cursor ∨ ∃ next, next = (⟨skipping, ⟨α, inner⟩, cursor⟩ : Stage ρ) ∧
      Reached setting next n) : Reached setting ⟨skipping, ⟨α, inner⟩, cursor⟩ n := by
  obtain hstart | ⟨next, rfl, hreached⟩ := h
  · exact Or.inl hstart
  · exact hreached

/-- A repetition without items refuses its first item where it starts. -/
theorem many_nil {skipping : Bool} {α : Type} {item : Parser ρ α} {fuel cursor next : Nat}
    {lost : Nat → Prop} {before after : Progress}
    (hitem : ∀ fuel' < fuel, (item.run fuel' (withSkipping setting skipping) cursor).Covers
      (Reached setting ⟨skipping, ⟨α, item⟩, cursor⟩) lost)
    (hrun : (many item).run fuel (withSkipping setting skipping) cursor before =
      (.matched [] next, after)) :
    next = cursor ∧ (cursor ≤ after.furthest ∨ lost cursor) := by
  cases fuel with
  | zero => cases hrun
  | succ fuel =>
    have hcovers := hitem fuel (Nat.lt_succ_self fuel) before
    rw [run_many, Attempt.resume] at hrun
    split at hrun
    · next value middle progress heq =>
      split at hrun
      · have hcons : Attempt.Ensures _ fun values _ => values ≠ [] :=
          (run_ensures_yields fuel (withSkipping setting skipping) (many item) middle).map
            (value :: ·) fun values _ _ => List.cons_ne_nil value values
        exact absurd rfl (hcons progress [] next (by rw [hrun]))
      · cases hrun
    · next progress heq =>
      rw [heq] at hcovers
      cases hrun
      exact ⟨rfl, (hcovers (by simp)).2 cursor (Or.inl (Nat.le_refl cursor))⟩
    · cases hrun

theorem many1_covers {skipping : Bool} {α : Type} {item : Parser ρ α} {fuel cursor : Nat}
    {lost : Nat → Prop} (hlost : ∀ n, n ≤ cursor → lost cursor → lost n)
    (hitem : ∀ fuel' < fuel, (item.run fuel' (withSkipping setting skipping) cursor).Covers
      (Reached setting ⟨skipping, ⟨α, item⟩, cursor⟩) lost)
    (hmany : ((many item).run fuel (withSkipping setting skipping) cursor).Covers
      (Reached setting ⟨skipping, ⟨List α, many item⟩, cursor⟩) lost) :
    ((many1 item).run (fuel + 1) (withSkipping setting skipping) cursor).Covers
      ((many1 item).ReachedWithin setting skipping cursor) lost := by
  intro before hends
  have hcovers := hmany before
  rw [run_many1, Attempt.andThen, Attempt.resume] at hends ⊢
  split at hends
  · next values next progress heq =>
    rw [heq] at hcovers
    obtain ⟨hle, hcovers⟩ := hcovers (by simp)
    cases values with
    | nil =>
      obtain ⟨rfl, hstart⟩ := many_nil hitem heq
      refine ⟨hle, fun n hn => ?_⟩
      obtain hmax | hlost' := hcovers n (.of_alone hn)
      · obtain hnext | hrefused := le_max_iff.1 hmax
        · exact hstart.imp hnext.trans (hlost n hnext)
        · exact Or.inl hrefused
      · exact Or.inr hlost'
    | cons value values => exact ⟨hle, fun n hn => hcovers n (.of_alone hn)⟩
  · next progress heq =>
    rw [heq] at hcovers
    obtain ⟨hle, hcovers⟩ := hcovers (by simp)
    exact ⟨hle, fun n hn => hcovers n (.of_alone hn)⟩
  · exact absurd rfl hends

theorem primitive_covers (hsetting : setting.IsLibrary) {skipping : Bool} {α : Type}
    {wanted : Primitive α} {fuel cursor : Nat} {lost : Nat → Prop}
    (hskips : ∀ skip reached, setting.skip? = some skip → setting.Skips cursor reached →
      skipping = true → (skip.run fuel setting.withoutSkip reached).Covers
        (Reached setting ⟨false, ⟨Unit, skip⟩, reached⟩) lost) :
    ((primitive wanted).run (fuel + 1) (withSkipping setting skipping) cursor).Covers
      ((primitive wanted).ReachedWithin setting skipping cursor) lost := by
  have hskipped : (skipFrom fuel (withSkipping setting skipping) cursor).Covers
      ((primitive wanted).ReachedWithin setting skipping cursor) lost := by
    cases hskip : (withSkipping setting skipping).skip? with
    | none =>
      rw [skipFrom_of_none hskip]
      refine .matched () ?_
      rintro n (hstart | ⟨next, ⟨rfl, skip, reached, hsome, -, -⟩, -⟩)
      · exact hstart
      · cases hskip.symm.trans hsome
    | some skip =>
      cases skipping with
      | false => cases hskip
      | true =>
        rw [skipFrom_of_some hskip]
        refine (chain_covers hsetting hskip fuel cursor fun reached hreached =>
          hskips skip reached hskip hreached rfl).mono ?_
        rintro n (hstart | ⟨next, ⟨-, skip', reached, hsome, hreached, rfl⟩, hn⟩)
        · exact Or.inl hstart
        · cases hskip.symm.trans hsome
          exact Or.inr ⟨reached, hreached, hn⟩
  rw [run_primitive]
  refine hskipped.andThen (fun _ position _ => take_covers _ wanted ?_) fun _ n hn => hn.2 hn.1
  rintro n (hle | ⟨hn, hnot⟩)
  · exact hle
  · exact absurd hn hnot

/-- **What an attempt covers.** All positions that it comes to, unless they are lost. -/
theorem run_covers (hsetting : setting.IsLibrary) (fuel : Nat) (skipping : Bool) {α : Type}
    {parser : Parser ρ α} (hparser : parser.IsLibrary) (cursor : Nat) :
    (parser.run fuel (withSkipping setting skipping) cursor).Covers
      (Reached setting ⟨skipping, ⟨α, parser⟩, cursor⟩)
      (Lost setting ⟨skipping, ⟨α, parser⟩, cursor⟩) := by
  -- `many1` calls `many`, and only that calls the item: hence all smaller fuels.
  induction fuel using Nat.strong_induction_on generalizing skipping α cursor with
  | _ fuel ih =>
  cases fuel with
  | zero => exact .exhausted
  | succ fuel =>
    have hcall : ∀ {next : Stage ρ}, Tries setting ⟨skipping, ⟨α, parser⟩, cursor⟩ next →
        (next.part.2.run fuel (withSkipping setting next.skipping) next.cursor).Covers
          (Reached setting next) (Lost setting ⟨skipping, ⟨α, parser⟩, cursor⟩) := by
      intro next htries
      have hlibrary := htries.isLibrary hsetting hparser
      exact (ih fuel (Nat.lt_succ_self fuel) next.skipping hlibrary next.cursor).lose fun _ =>
        .of_tries htries
    apply covers_of_within hsetting hparser
    cases parser with
    | primitive wanted =>
      apply primitive_covers hsetting
      rintro skip reached hskip hreached rfl
      exact hcall (.skips hskip hreached)
    | seq first second =>
      rw [run_seq]
      exact andThen_covers hsetting hparser.1 (hcall (.begins (.seq first second)))
        fun value middle hyields => (hcall (.follows (.seq first second) hyields)).map _
    | thenIgnore first second =>
      rw [run_thenIgnore]
      exact andThen_covers hsetting hparser.1 (hcall (.begins (.thenIgnore first second)))
        fun value middle hyields => (hcall (.follows (.thenIgnore first second) hyields)).map _
    | ignoreThen first second =>
      rw [run_ignoreThen]
      exact andThen_covers hsetting hparser.1 (hcall (.begins (.ignoreThen first second)))
        fun value middle hyields => hcall (.follows (.ignoreThen first second) hyields)
    | alt first second =>
      rw [run_alt]
      exact orElse_covers hsetting hparser.1 (hcall (.begins (.alt first second)))
        ((run_ensures_yields fuel _ first cursor).mono fun value _ hyields => ⟨value, hyields⟩)
        (fun before hfailed => ⟨fuel, before, hfailed⟩) fun hfailed =>
          hcall (.chooses (.alt first second) hfailed)
    | either first second =>
      rw [run_either]
      exact orElse_covers hsetting hparser.1 ((hcall (.begins (.either first second))).map _)
        ((run_ensures_yields fuel _ first cursor).map _ fun value _ hyields => ⟨value, hyields⟩)
        (fun before hfailed => ⟨fuel, before, Attempt.failed_of_map hfailed⟩) fun hfailed =>
          (hcall (.chooses (.either first second) hfailed)).map _
    | many item =>
      exact many_covers hsetting hparser (hcall (.begins (.many item)))
        fun value middle hyields hlt => hcall (.repeats hyields hlt)
    | many1 item =>
      have hitem : item.IsLibrary := hparser
      have htries : Tries setting ⟨skipping, ⟨List _, many1 item⟩, cursor⟩
          ⟨skipping, ⟨List _, many item⟩, cursor⟩ := .begins (.many1 item)
      refine many1_covers ?_ (fun fuel' hlt => ?_) (hcall htries)
      · rintro n hle ⟨made, position, hmakes, hdrops, hlost⟩
        exact ⟨made, position, hmakes, hdrops, hle.trans hlost⟩
      · exact (ih fuel' (Nat.lt_succ_of_lt hlt) skipping hitem cursor).lose fun _ hlost =>
          (hlost.of_tries (.begins (.many item))).of_tries htries
    | exclude inner excluded =>
      exact exclude_covers hsetting hparser.1 (hcall (.begins (.exclude inner excluded)))
        (fun value middle hyields => hcall (.excludes hyields))
        fun n position hdrops hle => hdrops.lost hle
    | discard inner =>
      rw [run_discard]
      exact ((hcall (.begins (.discard inner))).map _).mono fun n hn => .of_alone hn
    | optional inner =>
      rw [run_optional]
      have honly : ∀ n, ¬((optional inner).ReachedWithin setting skipping cursor n ∧
          ¬Reached setting ⟨skipping, ⟨_, inner⟩, cursor⟩ n) := fun n hn => hn.2 (.of_alone hn.1)
      refine ((hcall (.begins (.optional inner))).map _).orElse (fun _ => honly) fun _ => ?_
      exact .matched none fun n hn => absurd hn (honly n)
    | map f inner =>
      rw [run_map]
      exact ((hcall (.begins (.map f inner))).map _).mono fun n hn => .of_alone hn
    | rule handle =>
      rw [run_rule, withSkipping_grammar]
      cases hbody : setting.grammar.body? handle with
      | none =>
        have hdrops : Drops setting ⟨skipping, ⟨_, rule handle⟩, cursor⟩ cursor := .unknown hbody
        refine .after _ (.failed ?_)
        rintro n (hstart | ⟨next, ⟨body, hsome, -⟩, -⟩)
        · exact hdrops.lost hstart
        · cases hbody.symm.trans hsome
      | some body =>
        refine ((hcall (.begins (.rule hbody))).enter handle.name cursor).mono ?_
        rintro n (hstart | ⟨next, ⟨body', hsome, rfl⟩, hreached⟩)
        · exact Or.inl hstart
        · cases hbody.symm.trans hsome
          exact hreached
    | unskipped inner => exact hparser.elim
    | custom act => exact hparser.elim

end Parser

end TokenGrammar
