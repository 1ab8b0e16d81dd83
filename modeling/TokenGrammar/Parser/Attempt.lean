import TokenGrammar.Trace

/-!
# Attempts

What becomes of trying a parser at a cursor. While an attempt goes on, the furthest position at
which a token was refused is remembered and events are collected; both are kept when it fails.
-/

namespace TokenGrammar

inductive Outcome (α : Type) where
  | matched (value : α) (next : Nat)
  | failed
  /-- The allowance of steps ran out before there was an answer. -/
  | exhausted
deriving DecidableEq, Repr

/-- The furthest refused position so far, and the events so far, newest first. -/
structure Progress where
  furthest : Nat
  events : List Event

namespace Progress

def note (progress : Progress) (position : Nat) : Progress :=
  { progress with furthest := max progress.furthest position }

def record (progress : Progress) (event : Event) : Progress :=
  { progress with events := event :: progress.events }

end Progress

def Attempt (α : Type) : Type := Progress → Outcome α × Progress

namespace Attempt

variable {α β : Type}

@[inline] def matched (value : α) (next : Nat) : Attempt α := fun progress =>
  (.matched value next, progress)

@[inline] def failed : Attempt α := fun progress => (.failed, progress)

@[inline] def exhausted : Attempt α := fun progress => (.exhausted, progress)

@[inline] def refused (position : Nat) : Attempt α := fun progress =>
  (.failed, progress.note position)

@[inline] def after (event : Event) (attempt : Attempt α) : Attempt α := fun progress =>
  attempt (progress.record event)

@[inline] def resume (attempt : Attempt α) (onMatch : α → Nat → Attempt β) (onFailure : Attempt β) :
    Attempt β := fun progress =>
  match attempt progress with
  | (.matched value next, progress) => onMatch value next progress
  | (.failed, progress) => onFailure progress
  | (.exhausted, progress) => (.exhausted, progress)

@[inline] def andThen (attempt : Attempt α) (onMatch : α → Nat → Attempt β) : Attempt β :=
  attempt.resume onMatch failed

@[inline] def orElse (attempt alternative : Attempt α) : Attempt α :=
  attempt.resume matched alternative

@[inline] def map (f : α → β) (attempt : Attempt α) : Attempt β :=
  attempt.andThen fun value next => matched (f value) next

end Attempt

end TokenGrammar
