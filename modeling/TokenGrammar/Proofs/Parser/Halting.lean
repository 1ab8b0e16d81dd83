import TokenGrammar.Proofs.Parser.Trials

/-!
# Halting

An attempt halts as soon as all attempts do that it makes itself. Nothing else can keep it from an
answer: a repetition stops when an item does not advance, and skipping takes its next step only if
the last one advanced, so there are at most as many steps as tokens.
-/

namespace TokenGrammar

namespace Attempt

variable {α β : Type}

/-- With enough fuel, the attempt gives one outcome. -/
def Settles (attempt : Nat → Attempt α) : Prop :=
  ∃ outcome reach least, outcome ≠ .exhausted ∧
    ∀ fuel, least ≤ fuel → (attempt fuel).Gives outcome reach

namespace Settles

variable {attempt alternative : Nat → Attempt α} {onMatch : Nat → α → Nat → Attempt β}
  {onFailure : Nat → Attempt β}

theorem of_gives {attempt : Attempt α} {outcome : Outcome α} {reach : Nat}
    (hgives : attempt.Gives outcome reach) (hne : outcome ≠ .exhausted) :
    Settles fun _ => attempt :=
  ⟨outcome, reach, 0, hne, fun _ _ => hgives⟩

theorem matched (value : α) (next : Nat) : Settles fun _ => Attempt.matched value next :=
  of_gives (.matched value next) (by simp)

theorem failed : Settles fun _ => (Attempt.failed : Attempt α) :=
  of_gives .failed (by simp)

theorem of_succ (h : Settles fun fuel => attempt (fuel + 1)) : Settles attempt := by
  obtain ⟨outcome, reach, least, hne, hgives⟩ := h
  refine ⟨outcome, reach, least + 1, hne, fun fuel hfuel => ?_⟩
  obtain ⟨fuel, rfl⟩ : ∃ n, fuel = n + 1 := ⟨fuel - 1, by omega⟩
  exact hgives fuel (by omega)

theorem add (h : Settles attempt) (extra : Nat) : Settles fun fuel => attempt (fuel + extra) := by
  obtain ⟨outcome, reach, least, hne, hgives⟩ := h
  exact ⟨outcome, reach, least, hne, fun fuel hfuel => hgives (fuel + extra) (by omega)⟩

theorem after (event : Event) (h : Settles attempt) :
    Settles fun fuel => (attempt fuel).after event := by
  obtain ⟨outcome, reach, least, hne, hgives⟩ := h
  exact ⟨outcome, reach, least, hne, fun fuel hfuel => (hgives fuel hfuel).after event⟩

/-- What comes after an attempt needs to settle only for outcomes that the attempt can have. -/
theorem resume (h : Settles attempt)
    (hmatch : ∀ value next, (∃ fuel progress, (attempt fuel progress).1 = .matched value next) →
      Settles fun fuel => onMatch fuel value next)
    (hfail : (∃ fuel progress, (attempt fuel progress).1 = .failed) → Settles onFailure) :
    Settles fun fuel => (attempt fuel).resume (onMatch fuel) (onFailure fuel) := by
  obtain ⟨outcome, reach, least, hne, hgives⟩ := h
  have hends : ∃ fuel progress, (attempt fuel progress).1 = outcome :=
    ⟨least, ⟨0, []⟩, (hgives least (Nat.le_refl least) ⟨0, []⟩).1⟩
  cases outcome with
  | exhausted => exact absurd rfl hne
  | failed =>
    obtain ⟨outcome', reach', least', hne', hgives'⟩ := hfail hends
    refine ⟨outcome', max reach reach', max least least', hne', fun fuel hfuel => ?_⟩
    exact (hgives fuel (by omega)).resume_of_failed (hgives' fuel (by omega))
  | matched value next =>
    obtain ⟨outcome', reach', least', hne', hgives'⟩ := hmatch value next hends
    refine ⟨outcome', max reach reach', max least least', hne', fun fuel hfuel => ?_⟩
    exact (hgives fuel (by omega)).resume_of_matched (hgives' fuel (by omega))

theorem andThen (h : Settles attempt)
    (hmatch : ∀ value next, (∃ fuel progress, (attempt fuel progress).1 = .matched value next) →
      Settles fun fuel => onMatch fuel value next) :
    Settles fun fuel => (attempt fuel).andThen (onMatch fuel) :=
  h.resume hmatch fun _ => failed

theorem map (f : α → β) (h : Settles attempt) : Settles fun fuel => (attempt fuel).map f :=
  h.andThen fun value next _ => matched (f value) next

theorem orElse (h : Settles attempt)
    (hfail : (∃ fuel progress, (attempt fuel progress).1 = .failed) → Settles alternative) :
    Settles fun fuel => (attempt fuel).orElse (alternative fuel) :=
  h.resume (fun value next _ => matched value next) hfail

end Settles

theorem failed_of_map {attempt : Attempt α} {f : α → β} {progress : Progress}
    (h : (attempt.map f progress).1 = .failed) : (attempt progress).1 = .failed := by
  unfold map andThen resume at h
  generalize attempt progress = result at h ⊢
  obtain ⟨outcome, after⟩ := result
  cases outcome with
  | matched value next => cases h
  | failed => rfl
  | exhausted => cases h

end Attempt

namespace Parser

variable {ρ : Nat → Type} {setting : Setting ρ}

theorem halts_iff_settles {α : Type} {parser : Parser ρ α} {cursor : Nat}
    (hsetting : setting.IsLibrary) (hparser : parser.IsLibrary) :
    parser.Halts setting cursor ↔ Attempt.Settles fun fuel => parser.run fuel setting cursor := by
  constructor
  · intro hhalts
    obtain ⟨outcome, reach, hne, least, hgives⟩ := hhalts.answers hsetting hparser
    exact ⟨outcome, reach, least, hne, hgives⟩
  · rintro ⟨outcome, reach, least, hne, hgives⟩
    refine ⟨least, ?_⟩
    rwa [(hgives least (Nat.le_refl least) ⟨0, []⟩).1]

theorem take_settles {α : Type} (setting : Setting ρ) (wanted : Primitive α) (cursor : Nat) :
    Attempt.Settles fun _ => take setting wanted cursor := by
  unfold take
  split
  · exact .of_gives (.refused cursor) (by simp)
  · split
    · exact .of_gives (.refused cursor) (by simp)
    · exact .after _ (.matched _ _)

/-- Rounds of skipping settle if each of them does. Every round that advances leaves fewer tokens
before the end bound. -/
theorem chain_settles (hsetting : setting.IsLibrary) {skip : Parser ρ Unit}
    (hskip : setting.skip? = some skip) (extra cursor : Nat)
    (hhalts : ∀ reached, setting.Skips cursor reached → skip.Halts setting.withoutSkip reached) :
    Attempt.Settles fun rounds =>
      Attempt.chain (skip.run (rounds + extra) setting.withoutSkip) rounds cursor := by
  -- The rounds run down while the fuel of the skip parser stays what it is, hence `extra`.
  induction hleft : setting.finish - cursor using Nat.strong_induction_on
    generalizing extra cursor with
  | _ left ih =>
    have hlibrary : skip.IsLibrary := hsetting.skip skip hskip
    have hround := (halts_iff_settles hsetting.withoutSkip hlibrary).1 (hhalts cursor .refl)
    apply Attempt.Settles.of_succ
    simp only [Attempt.chain, Nat.add_assoc]
    refine (hround.add (1 + extra)).resume ?_ fun _ => .matched () cursor
    rintro ⟨⟩ next ⟨fuel, progress, hmatched⟩
    split
    · next hlt =>
      have hyields : skip.Yields setting.withoutSkip cursor (.matched () next) :=
        ⟨_, progress, hmatched⟩
      have hlimit := (hyields.within hsetting.withoutSkip hlibrary).2
      change next ≤ max cursor setting.finish at hlimit
      refine ih (setting.finish - next) (by omega) (1 + extra) next ?_ rfl
      intro reached hskips
      exact hhalts reached (hskips.head ⟨hlt, skip, hskip, hyields⟩)
    · exact .matched () cursor

theorem skipFrom_settles (hsetting : setting.IsLibrary) {cursor : Nat}
    (hhalts : ∀ skip reached, setting.skip? = some skip → setting.Skips cursor reached →
      skip.Halts setting.withoutSkip reached) :
    Attempt.Settles fun fuel => skipFrom fuel setting cursor := by
  cases hskip : setting.skip? with
  | none =>
    simp only [skipFrom_of_none hskip]
    exact .matched () cursor
  | some skip =>
    simp only [skipFrom_of_some hskip]
    exact chain_settles hsetting hskip 0 cursor fun reached => hhalts skip reached hskip

/-- **Halting, one step.** An attempt halts if the attempts that it makes itself halt. -/
theorem Stage.halts_of_tries (hsetting : setting.IsLibrary) {stage : Stage ρ}
    (hstage : stage.part.2.IsLibrary)
    (htries : ∀ next, Tries setting stage next → next.Halts setting) : stage.Halts setting := by
  obtain ⟨skipping, ⟨α, parser⟩, cursor⟩ := stage
  have hwith := withSkipping_isLibrary hsetting skipping
  have hsettles : ∀ {γ : Type} {called : Parser ρ γ} {position : Nat},
      Tries setting ⟨skipping, ⟨α, parser⟩, cursor⟩ ⟨skipping, ⟨γ, called⟩, position⟩ →
        Attempt.Settles fun fuel => called.run fuel (withSkipping setting skipping) position :=
    fun hcalled =>
      (halts_iff_settles hwith (hcalled.isLibrary hsetting hstage)).1 (htries _ hcalled)
  refine (halts_iff_settles hwith hstage).2 (Attempt.Settles.of_succ ?_)
  cases parser with
  | primitive wanted =>
    simp only [run_primitive]
    refine Attempt.Settles.andThen (skipFrom_settles hwith ?_) fun _ position _ =>
      take_settles _ wanted position
    intro skip reached hskip hreached
    cases skipping with
    | false => cases hskip
    | true => exact htries _ (.skips hskip hreached)
  | seq first second =>
    simp only [run_seq]
    exact (hsettles (.begins (.seq first second))).andThen fun _ _ hfirst =>
      (hsettles (.follows (.seq first second) hfirst)).map _
  | thenIgnore first second =>
    simp only [run_thenIgnore]
    exact (hsettles (.begins (.thenIgnore first second))).andThen fun _ _ hfirst =>
      (hsettles (.follows (.thenIgnore first second) hfirst)).map _
  | ignoreThen first second =>
    simp only [run_ignoreThen]
    exact (hsettles (.begins (.ignoreThen first second))).andThen fun _ _ hfirst =>
      hsettles (.follows (.ignoreThen first second) hfirst)
  | alt first second =>
    simp only [run_alt]
    exact (hsettles (.begins (.alt first second))).orElse fun hfirst =>
      hsettles (.chooses (.alt first second) hfirst)
  | either first second =>
    simp only [run_either]
    refine ((hsettles (.begins (.either first second))).map _).orElse ?_
    rintro ⟨fuel, progress, hfailed⟩
    have hfirst : first.Yields (withSkipping setting skipping) cursor .failed :=
      ⟨fuel, progress, Attempt.failed_of_map hfailed⟩
    exact (hsettles (.chooses (.either first second) hfirst)).map _
  | many item =>
    simp only [run_many]
    refine (hsettles (.begins (.many item))).resume ?_ fun _ => .matched [] cursor
    intro value next hitem
    split
    · next hlt => exact (hsettles (.repeats hitem hlt)).map _
    · exact .matched [value] cursor
  | many1 item =>
    simp only [run_many1]
    refine (hsettles (.begins (.many1 item))).andThen fun values next _ => ?_
    split
    · exact .failed
    · exact .matched values next
  | exclude inner excluded =>
    simp only [run_exclude]
    exact (hsettles (.begins (.exclude inner excluded))).andThen fun value next hinner =>
      (hsettles (.excludes hinner)).resume (fun _ _ _ => .failed) fun _ => .matched value next
  | discard inner =>
    simp only [run_discard]
    exact (hsettles (.begins (.discard inner))).map _
  | optional inner =>
    simp only [run_optional]
    exact ((hsettles (.begins (.optional inner))).map _).orElse fun _ => .matched none cursor
  | map f inner =>
    simp only [run_map]
    exact (hsettles (.begins (.map f inner))).map f
  | rule handle =>
    simp only [run_rule, withSkipping_grammar]
    cases hbody : setting.grammar.body? handle with
    | none => exact .after _ .failed
    | some body =>
      refine .after _ ((hsettles (.begins (.rule hbody))).resume ?_ fun _ => .after _ .failed)
      intro value next _
      exact .after _ (.matched value next)
  | unskipped inner => exact hstage.elim
  | custom act => exact hstage.elim

end Parser

end TokenGrammar
