import Mathlib.Tactic.ByContra
import TokenGrammar.Proofs.Parser.Correspondence

/-!
# What a run does not depend on

A library parser that has an answer keeps it when it gets more fuel, and its outcome is the same
whatever was refused before. Both compare a run with itself, so they follow from what single tokens
do.
-/

namespace TokenGrammar

namespace Setting

variable {ρ : Nat → Type}

structure IsLibrary (setting : Setting ρ) : Prop where
  grammar : setting.grammar.IsLibrary
  skip : ∀ skip, setting.skip? = some skip → skip.IsLibrary

theorem IsLibrary.withoutSkip {setting : Setting ρ}
    (hsetting : setting.IsLibrary) : setting.withoutSkip.IsLibrary :=
  ⟨hsetting.grammar, fun _ hskip => nomatch hskip⟩

theorem lt_finish_of_tokenAt {setting : Setting ρ} {cursor : Nat} {token : Token}
    (htoken : setting.tokenAt cursor = some token) : cursor < setting.finish := by
  by_contra hge
  rw [tokenAt, if_neg hge] at htoken
  cases htoken

end Setting

namespace Parser

variable {ρ : Nat → Type} {α : Type}

theorem skipFrom_of_none {setting : Setting ρ} (hskip : setting.skip? = none) (fuel cursor : Nat) :
    skipFrom fuel setting cursor = Attempt.matched () cursor := by
  simp only [skipFrom, hskip]

theorem skipFrom_of_some {setting : Setting ρ} {skip : Parser ρ Unit}
    (hskip : setting.skip? = some skip) (fuel cursor : Nat) :
    skipFrom fuel setting cursor =
      Attempt.chain (run fuel setting.withoutSkip skip) fuel cursor := by
  simp only [skipFrom, hskip]

theorem run_primitive_of_none {setting : Setting ρ} (hskip : setting.skip? = none) (fuel : Nat)
    (wanted : Primitive α) (cursor : Nat) :
    run (fuel + 1) setting (primitive wanted) cursor = take setting wanted cursor := by
  rw [run_primitive, skipFrom_of_none hskip]
  rfl

end Parser

namespace Correspondence

section Take

variable {R : Correspondence} {ρ : Nat → Type} {α : Type} {first second : Setting ρ}
  {left right : Nat}

variable (hfirst : first.IsLibrary) (hgrammar : second.grammar = first.grammar)
  (hskip : second.skip? = first.skip?)
  (htake : ∀ {γ : Type} (wanted : Primitive γ), ∀ left right, R.cursor left right →
    R.Related left right (Parser.take first wanted left) (Parser.take second wanted right))

include hfirst hgrammar htake

theorem run_withoutSkip_of_take (extra fuel : Nat) {parser : Parser ρ α}
    (hparser : parser.IsLibrary) (hcursor : R.cursor left right) :
    R.Related left right (parser.run fuel first.withoutSkip left)
      (parser.run (fuel + extra) second.withoutSkip right) := by
  refine run hfirst.withoutSkip.grammar
    (show second.withoutSkip.grammar = first.withoutSkip.grammar from hgrammar) extra ?_ fuel
    hparser hcursor
  intro fuel γ wanted left right hcursor
  rw [Parser.run_primitive_of_none rfl, Parser.run_primitive_of_none rfl]
  exact htake wanted left right hcursor

include hskip

theorem skipFrom_of_take (extra fuel : Nat) (hcursor : R.cursor left right) :
    R.Related left right (Parser.skipFrom fuel first left)
      (Parser.skipFrom (fuel + extra) second right) := by
  cases hsome : first.skip? with
  | none =>
    rw [Parser.skipFrom_of_none hsome, Parser.skipFrom_of_none (hskip.trans hsome)]
    exact .matched () hcursor (.refl left right)
  | some skip =>
    rw [Parser.skipFrom_of_some hsome, Parser.skipFrom_of_some (hskip.trans hsome)]
    refine chain (fun left right hcursor => ?_) fuel (fuel + extra) hcursor (Or.inl (by omega))
    exact run_withoutSkip_of_take hfirst hgrammar htake extra fuel (hfirst.skip skip hsome) hcursor

theorem run_of_take (extra fuel : Nat) {parser : Parser ρ α} (hparser : parser.IsLibrary)
    (hcursor : R.cursor left right) :
    R.Related left right (parser.run fuel first left) (parser.run (fuel + extra) second right) := by
  refine run hfirst.grammar hgrammar extra ?_ fuel hparser hcursor
  intro fuel γ wanted left right hcursor
  rw [Parser.run_primitive, Parser.run_primitive]
  have hskipped := skipFrom_of_take hfirst hgrammar hskip htake extra fuel hcursor
  refine hskipped.andThen fun _ left' right' hcursor' hmove => ?_
  exact .of_move hmove (htake wanted left' right' hcursor')

end Take

/-- One run beside itself, at cursors between two bounds. -/
def within (start limit : Nat) : Correspondence where
  cursor left right := left = right ∧ start ≤ left ∧ left ≤ limit
  progress := Eq
  enteredRule := by rintro _ _ _ _ name ⟨rfl, -⟩ rfl; rfl
  leftRule := by rintro _ _ _ _ name matched ⟨rfl, -⟩ rfl; rfl
  unknownRule := by rintro _ _ name rfl; rfl

/-- One run beside itself, from any two states of progress. -/
def regardless : Correspondence where
  cursor := Eq
  progress := fun _ _ => True
  enteredRule := fun _ _ _ => trivial
  leftRule := fun _ _ _ _ => trivial
  unknownRule := fun _ _ => trivial

section Agree

variable {R : Correspondence} {α : Type} {left right start limit : Nat}
  {first second third : Outcome α × Progress}

theorem Agree.ne_exhausted (h : R.Agree left right first second) (hfirst : first.1 ≠ .exhausted) :
    second.1 ≠ .exhausted := by
  cases h with
  | exhausted => exact absurd rfl hfirst
  | failed => simp
  | matched => simp

theorem Agree.eq_of_within (h : (within start limit).Agree left right first second)
    (hfirst : first.1 ≠ .exhausted) : second = first := by
  cases h with
  | exhausted => exact absurd rfl hfirst
  | failed hprogress => rw [show _ = _ from hprogress]
  | matched value hcursor hmove hprogress => rw [hcursor.1, show _ = _ from hprogress]

theorem Agree.trans_within (h : (within start limit).Agree left left first second)
    (h' : R.Agree left right second third) : R.Agree left right first third := by
  obtain ⟨outcome, progress⟩ := first
  by_cases hfirst : outcome = .exhausted
  · rw [hfirst]
    exact .exhausted progress third
  · rwa [h.eq_of_within hfirst] at h'

end Agree

end Correspondence

namespace Parser

variable {ρ : Nat → Type} {α : Type} {setting : Setting ρ} {parser : Parser ρ α}

theorem take_related {R : Correspondence} {cursor : Nat}
    (hnext : cursor < setting.finish → R.cursor (cursor + 1) (cursor + 1))
    (hprogress : ∀ p q, R.progress p q → R.progress (p.note cursor) (q.note cursor))
    (hevent : ∀ event p q, R.progress p q → R.progress (p.record event) (q.record event))
    (wanted : Primitive α) :
    R.Related cursor cursor (take setting wanted cursor) (take setting wanted cursor) := by
  have hrefused : R.Related cursor cursor (Attempt.refused cursor : Attempt α)
      (Attempt.refused cursor) := fun p q hpq => .failed (hprogress p q hpq)
  unfold take
  split
  · exact hrefused
  · next token htoken =>
    split
    · exact hrefused
    · have hlt := Setting.lt_finish_of_tokenAt htoken
      exact (Correspondence.Related.matched _ (hnext hlt) ⟨by omega, by omega, Iff.rfl⟩).after
        (hevent _)

theorem take_within {start limit : Nat} (hlimit : setting.finish ≤ limit) (wanted : Primitive α)
    (left right : Nat) (hcursor : (Correspondence.within start limit).cursor left right) :
    (Correspondence.within start limit).Related left right (take setting wanted left)
      (take setting wanted right) := by
  obtain ⟨rfl, hstart, hle⟩ := hcursor
  refine take_related ?_ ?_ ?_ wanted
  · intro hlt
    exact ⟨rfl, by omega, by omega⟩
  · rintro p q rfl
    rfl
  · rintro event p q rfl
    rfl

/-- **Fuel.** More of it keeps an answer, and no answer lies before the start or past the bound. -/
theorem run_add_related (hsetting : setting.IsLibrary) (hparser : parser.IsLibrary)
    {start limit : Nat} (hlimit : setting.finish ≤ limit) (fuel extra : Nat) {cursor : Nat}
    (hstart : start ≤ cursor) (hcursor : cursor ≤ limit) :
    (Correspondence.within start limit).Related cursor cursor (parser.run fuel setting cursor)
      (parser.run (fuel + extra) setting cursor) :=
  Correspondence.run_of_take hsetting rfl rfl (take_within hlimit) extra fuel hparser
    ⟨rfl, hstart, hcursor⟩

theorem skipFrom_eq_of_le (hsetting : setting.IsLibrary) {fuel fuel' : Nat} (hle : fuel ≤ fuel')
    {cursor : Nat} {progress : Progress}
    (hanswer : (skipFrom fuel setting cursor progress).1 ≠ .exhausted) :
    skipFrom fuel' setting cursor progress = skipFrom fuel setting cursor progress := by
  obtain ⟨extra, rfl⟩ := Nat.exists_eq_add_of_le hle
  have hcursor : (Correspondence.within cursor (max cursor setting.finish)).cursor cursor cursor :=
    ⟨rfl, Nat.le_refl cursor, Nat.le_max_left cursor setting.finish⟩
  have hrelated := Correspondence.skipFrom_of_take hsetting rfl rfl
    (take_within (Nat.le_max_right cursor setting.finish)) extra fuel hcursor
  exact (hrelated progress progress rfl).eq_of_within hanswer

theorem run_eq_of_le (hsetting : setting.IsLibrary) (hparser : parser.IsLibrary)
    {fuel fuel' : Nat} (hle : fuel ≤ fuel') {cursor : Nat} {progress : Progress}
    (hanswer : (parser.run fuel setting cursor progress).1 ≠ .exhausted) :
    parser.run fuel' setting cursor progress = parser.run fuel setting cursor progress := by
  obtain ⟨extra, rfl⟩ := Nat.exists_eq_add_of_le hle
  have hrelated := run_add_related hsetting hparser (Nat.le_max_right cursor setting.finish) fuel
    extra (Nat.le_refl cursor) (Nat.le_max_left cursor setting.finish)
  exact (hrelated progress progress rfl).eq_of_within hanswer

theorem run_eq_of_ne_exhausted (hsetting : setting.IsLibrary) (hparser : parser.IsLibrary)
    {fuel fuel' cursor : Nat} {progress : Progress}
    (hanswer : (parser.run fuel setting cursor progress).1 ≠ .exhausted)
    (hanswer' : (parser.run fuel' setting cursor progress).1 ≠ .exhausted) :
    parser.run fuel setting cursor progress = parser.run fuel' setting cursor progress := by
  rcases Nat.le_total fuel fuel' with hle | hle
  · exact (run_eq_of_le hsetting hparser hle hanswer).symm
  · exact run_eq_of_le hsetting hparser hle hanswer'

theorem run_outcome_eq (hsetting : setting.IsLibrary) (hparser : parser.IsLibrary)
    (fuel cursor : Nat) (p q : Progress) :
    (parser.run fuel setting cursor p).1 = (parser.run fuel setting cursor q).1 := by
  have hrelated : ∀ p q, Correspondence.regardless.Agree cursor cursor
      (parser.run fuel setting cursor p) (parser.run fuel setting cursor q) := by
    intro p q
    refine Correspondence.run_of_take hsetting rfl rfl ?_ 0 fuel hparser rfl p q trivial
    rintro γ wanted left right rfl
    exact take_related (fun _ => rfl) (fun _ _ _ => trivial) (fun _ _ _ _ => trivial) wanted
  have hforth := hrelated p q
  have hback := hrelated q p
  generalize parser.run fuel setting cursor p = first at hforth hback ⊢
  generalize parser.run fuel setting cursor q = second at hforth hback ⊢
  cases hforth with
  | failed => rfl
  | matched value hcursor => rw [show _ = _ from hcursor]
  | exhausted p =>
    by_contra hne
    exact hback.ne_exhausted (Ne.symm hne) rfl

end Parser

end TokenGrammar
