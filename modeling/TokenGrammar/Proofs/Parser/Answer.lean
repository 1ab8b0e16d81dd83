import TokenGrammar.Proofs.Parser.Fuel
import TokenGrammar.Proofs.Token.Significant

/-!
# Answers of attempts and parsers

An attempt gives an outcome and raises the furthest refused position to a reach of its own, whatever
was refused before. A parser answers in this way once it has enough fuel. The rules below say how
the answers of a combinator follow from those of its components, so that a parser can be followed
step by step without a thought for fuel.
-/

namespace TokenGrammar

def Outcome.map {α β : Type} (f : α → β) : Outcome α → Outcome β
  | .matched value next => .matched (f value) next
  | .failed => .failed
  | .exhausted => .exhausted

namespace Attempt

variable {α β : Type}

/-- The attempt ends with the outcome and refuses nothing beyond `reach`, but something there. -/
def Gives (attempt : Attempt α) (outcome : Outcome α) (reach : Nat) : Prop :=
  ∀ progress, (attempt progress).1 = outcome ∧
    (attempt progress).2.furthest = max progress.furthest reach

namespace Gives

variable {attempt : Attempt α} {onMatch : α → Nat → Attempt β} {onFailure : Attempt β}
  {outcome : Outcome α} {outcome' : Outcome β} {reach reach' next : Nat} {value : α}

theorem congr_reach (h : attempt.Gives outcome reach) (hreach : reach = reach') :
    attempt.Gives outcome reach' :=
  hreach ▸ h

theorem exists_progress (h : attempt.Gives outcome reach) (progress : Progress) :
    ∃ progress', attempt progress = (outcome, progress') ∧
      progress'.furthest = max progress.furthest reach :=
  ⟨_, Prod.ext (h progress).1 rfl, (h progress).2⟩

theorem unique {outcome' : Outcome α} (h : attempt.Gives outcome reach)
    (h' : attempt.Gives outcome' reach') : outcome = outcome' ∧ reach = reach' := by
  obtain ⟨houtcome, hfurthest⟩ := h ⟨0, []⟩
  obtain ⟨houtcome', hfurthest'⟩ := h' ⟨0, []⟩
  rw [hfurthest, Nat.zero_max, Nat.zero_max] at hfurthest'
  exact ⟨houtcome.symm.trans houtcome', hfurthest'⟩

theorem matched (value : α) (next : Nat) :
    (Attempt.matched value next).Gives (.matched value next) 0 :=
  fun progress => ⟨rfl, (Nat.max_zero progress.furthest).symm⟩

theorem failed : (Attempt.failed : Attempt α).Gives .failed 0 :=
  fun progress => ⟨rfl, (Nat.max_zero progress.furthest).symm⟩

theorem refused (position : Nat) : (Attempt.refused position : Attempt α).Gives .failed position :=
  fun _ => ⟨rfl, rfl⟩

theorem after (event : Event) (h : attempt.Gives outcome reach) :
    (attempt.after event).Gives outcome reach :=
  fun progress => h (progress.record event)

theorem resume_of_matched (h : attempt.Gives (.matched value next) reach)
    (h' : (onMatch value next).Gives outcome' reach') :
    (attempt.resume onMatch onFailure).Gives outcome' (max reach reach') := by
  intro progress
  obtain ⟨middle, hattempt, hreach⟩ := h.exists_progress progress
  obtain ⟨houtcome', hreach'⟩ := h' middle
  simp only [Attempt.resume, hattempt]
  exact ⟨houtcome', by rw [hreach', hreach, Nat.max_assoc]⟩

theorem resume_of_failed (h : attempt.Gives .failed reach) (h' : onFailure.Gives outcome' reach') :
    (attempt.resume onMatch onFailure).Gives outcome' (max reach reach') := by
  intro progress
  obtain ⟨middle, hattempt, hreach⟩ := h.exists_progress progress
  obtain ⟨houtcome', hreach'⟩ := h' middle
  simp only [Attempt.resume, hattempt]
  exact ⟨houtcome', by rw [hreach', hreach, Nat.max_assoc]⟩

theorem resume_of_exhausted (h : attempt.Gives .exhausted reach) :
    (attempt.resume onMatch onFailure).Gives .exhausted reach := by
  intro progress
  obtain ⟨middle, hattempt, hreach⟩ := h.exists_progress progress
  simp only [Attempt.resume, hattempt]
  exact ⟨trivial, hreach⟩

theorem andThen (h : attempt.Gives (.matched value next) reach)
    (h' : (onMatch value next).Gives outcome' reach') :
    (attempt.andThen onMatch).Gives outcome' (max reach reach') :=
  h.resume_of_matched h'

theorem andThen_of_failed (onMatch : α → Nat → Attempt β) (h : attempt.Gives .failed reach) :
    (attempt.andThen onMatch).Gives .failed reach := by
  refine congr_reach ?_ (Nat.max_zero reach)
  exact h.resume_of_failed failed

theorem map (f : α → β) (h : attempt.Gives outcome reach) :
    (attempt.map f).Gives (outcome.map f) reach := by
  cases outcome with
  | matched value next =>
    refine congr_reach ?_ (Nat.max_zero reach)
    exact h.resume_of_matched (matched (f value) next)
  | failed => exact h.andThen_of_failed _
  | exhausted => exact h.resume_of_exhausted

theorem orElse_of_matched (alternative : Attempt α)
    (h : attempt.Gives (.matched value next) reach) :
    (attempt.orElse alternative).Gives (.matched value next) reach := by
  refine congr_reach ?_ (Nat.max_zero reach)
  exact h.resume_of_matched (matched value next)

theorem orElse_of_failed {alternative : Attempt α} (h : attempt.Gives .failed reach)
    (h' : alternative.Gives outcome reach') :
    (attempt.orElse alternative).Gives outcome (max reach reach') :=
  h.resume_of_failed h'

theorem enter (name : String) (cursor : Nat) (h : attempt.Gives outcome reach) :
    (Parser.enter name cursor attempt).Gives outcome reach := by
  refine after _ ?_
  cases outcome with
  | matched value next =>
    refine congr_reach ?_ (Nat.max_zero reach)
    exact h.resume_of_matched ((matched value next).after (.leftRule name true next))
  | failed =>
    refine congr_reach ?_ (Nat.max_zero reach)
    exact h.resume_of_failed (failed.after (.leftRule name false cursor))
  | exhausted => exact h.resume_of_exhausted

end Gives

end Attempt

namespace Parser

variable {ρ : Nat → Type} {α β : Type}

/-- The parser answers in this way with all fuel from some amount on. -/
def Answers (setting : Setting ρ) (parser : Parser ρ α) (cursor : Nat) (outcome : Outcome α)
    (reach : Nat) : Prop :=
  ∃ least, ∀ fuel, least ≤ fuel → (parser.run fuel setting cursor).Gives outcome reach

namespace Answers

variable {setting : Setting ρ} {first : Parser ρ α} {second : Parser ρ β}
  {cursor middle next reach reach' : Nat} {left : α}

theorem congr_reach {outcome : Outcome α} (h : first.Answers setting cursor outcome reach)
    (hreach : reach = reach') : first.Answers setting cursor outcome reach' :=
  hreach ▸ h

theorem unique {outcome outcome' : Outcome α} (h : first.Answers setting cursor outcome reach)
    (h' : first.Answers setting cursor outcome' reach') : outcome = outcome' ∧ reach = reach' := by
  obtain ⟨least, h⟩ := h
  obtain ⟨least', h'⟩ := h'
  exact (h _ (Nat.le_max_left least least')).unique (h' _ (Nat.le_max_right least least'))

theorem of_succ {outcome : Outcome α} (least : Nat)
    (h : ∀ fuel, least ≤ fuel → (first.run (fuel + 1) setting cursor).Gives outcome reach) :
    first.Answers setting cursor outcome reach := by
  refine ⟨least + 1, fun fuel hfuel => ?_⟩
  obtain ⟨fuel, rfl⟩ : ∃ n, fuel = n + 1 := ⟨fuel - 1, by omega⟩
  exact h fuel (by omega)

theorem map {outcome : Outcome α} (f : α → β) (h : first.Answers setting cursor outcome reach) :
    (map f first).Answers setting cursor (outcome.map f) reach := by
  obtain ⟨least, h⟩ := h
  refine of_succ least fun fuel hfuel => ?_
  rw [run_map]
  exact (h fuel hfuel).map f

theorem seq {outcome : Outcome β} (h : first.Answers setting cursor (.matched left middle) reach)
    (h' : second.Answers setting middle outcome reach') :
    (seq first second).Answers setting cursor (outcome.map (left, ·)) (max reach reach') := by
  obtain ⟨least, h⟩ := h
  obtain ⟨least', h'⟩ := h'
  refine of_succ (max least least') fun fuel hfuel => ?_
  rw [run_seq]
  exact (h fuel (by omega)).andThen ((h' fuel (by omega)).map _)

theorem seq_of_failed (second : Parser ρ β) (h : first.Answers setting cursor .failed reach) :
    (Parser.seq first second).Answers setting cursor .failed reach := by
  obtain ⟨least, h⟩ := h
  refine of_succ least fun fuel hfuel => ?_
  rw [run_seq]
  exact (h fuel hfuel).andThen_of_failed _

theorem thenIgnore {outcome : Outcome β}
    (h : first.Answers setting cursor (.matched left middle) reach)
    (h' : second.Answers setting middle outcome reach') :
    (thenIgnore first second).Answers setting cursor (outcome.map fun _ => left)
      (max reach reach') := by
  obtain ⟨least, h⟩ := h
  obtain ⟨least', h'⟩ := h'
  refine of_succ (max least least') fun fuel hfuel => ?_
  rw [run_thenIgnore]
  exact (h fuel (by omega)).andThen ((h' fuel (by omega)).map _)

theorem thenIgnore_of_failed (second : Parser ρ β)
    (h : first.Answers setting cursor .failed reach) :
    (Parser.thenIgnore first second).Answers setting cursor .failed reach := by
  obtain ⟨least, h⟩ := h
  refine of_succ least fun fuel hfuel => ?_
  rw [run_thenIgnore]
  exact (h fuel hfuel).andThen_of_failed _

theorem ignoreThen {outcome : Outcome β}
    (h : first.Answers setting cursor (.matched left middle) reach)
    (h' : second.Answers setting middle outcome reach') :
    (ignoreThen first second).Answers setting cursor outcome (max reach reach') := by
  obtain ⟨least, h⟩ := h
  obtain ⟨least', h'⟩ := h'
  refine of_succ (max least least') fun fuel hfuel => ?_
  rw [run_ignoreThen]
  exact (h fuel (by omega)).andThen (h' fuel (by omega))

theorem ignoreThen_of_failed (second : Parser ρ β)
    (h : first.Answers setting cursor .failed reach) :
    (Parser.ignoreThen first second).Answers setting cursor .failed reach := by
  obtain ⟨least, h⟩ := h
  refine of_succ least fun fuel hfuel => ?_
  rw [run_ignoreThen]
  exact (h fuel hfuel).andThen_of_failed _

theorem alt (second : Parser ρ α) (h : first.Answers setting cursor (.matched left next) reach) :
    (alt first second).Answers setting cursor (.matched left next) reach := by
  obtain ⟨least, h⟩ := h
  refine of_succ least fun fuel hfuel => ?_
  rw [run_alt]
  exact (h fuel hfuel).orElse_of_matched _

theorem alt_of_failed {second : Parser ρ α} {outcome : Outcome α}
    (h : first.Answers setting cursor .failed reach)
    (h' : second.Answers setting cursor outcome reach') :
    (Parser.alt first second).Answers setting cursor outcome (max reach reach') := by
  obtain ⟨least, h⟩ := h
  obtain ⟨least', h'⟩ := h'
  refine of_succ (max least least') fun fuel hfuel => ?_
  rw [run_alt]
  exact (h fuel (by omega)).orElse_of_failed (h' fuel (by omega))

theorem optional (h : first.Answers setting cursor (.matched left next) reach) :
    (optional first).Answers setting cursor (.matched (some left) next) reach := by
  obtain ⟨least, h⟩ := h
  refine of_succ least fun fuel hfuel => ?_
  rw [run_optional]
  exact ((h fuel hfuel).map some).orElse_of_matched _

theorem optional_of_failed (h : first.Answers setting cursor .failed reach) :
    (Parser.optional first).Answers setting cursor (.matched none cursor) reach := by
  obtain ⟨least, h⟩ := h
  refine of_succ least fun fuel hfuel => ?_
  rw [run_optional]
  refine Attempt.Gives.congr_reach ?_ (Nat.max_zero reach)
  exact ((h fuel hfuel).map some).orElse_of_failed (.matched none cursor)

theorem rule {handle : Rule} {body : Parser ρ (ρ handle.output)}
    {outcome : Outcome (ρ handle.output)}
    (hbody : setting.grammar.body? handle = some body)
    (h : body.Answers setting cursor outcome reach) :
    (rule handle).Answers setting cursor outcome reach := by
  obtain ⟨least, h⟩ := h
  refine of_succ least fun fuel hfuel => ?_
  rw [run_rule, hbody]
  exact (h fuel hfuel).enter handle.name cursor

end Answers

end Parser

end TokenGrammar
