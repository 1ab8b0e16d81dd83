import TokenGrammar.Proofs.Parser.Library

/-!
# Two runs side by side

Many facts about parsers compare two runs of one parser: with more or less fuel, from another state
of the furthest cell, over other tokens. In all of them the two runs take the same decisions at
cursors that correspond, so it is enough to compare what primitives do. `Correspondence.run_succ`
says this for one step, and `Correspondence.run` for whole runs. The step goes by combinators, with
a rule for each in `Correspondence.Aligned`, which does not ask the two parsers to be one.

The first run may run out of fuel; nothing is said about the second one then.
-/

namespace TokenGrammar

/-- Which cursors and which states of progress of two runs belong together. Entering and leaving
rules at cursors that belong together has to keep the states together. -/
structure Correspondence where
  cursor : Nat → Nat → Prop
  progress : Progress → Progress → Prop
  enteredRule : ∀ {left right : Nat} {p q : Progress} (name : String), cursor left right →
    progress p q → progress (p.record (.enteredRule name left)) (q.record (.enteredRule name right))
  leftRule : ∀ {left right : Nat} {p q : Progress} (name : String) (matched : Bool),
    cursor left right → progress p q →
      progress (p.record (.leftRule name matched left)) (q.record (.leftRule name matched right))
  unknownRule : ∀ {p q : Progress} (name : String), progress p q →
    progress (p.record (.unknownRule name)) (q.record (.unknownRule name))

/-- Two moves forward of which either both advance or neither. -/
structure MoveTogether (left right left' right' : Nat) : Prop where
  left_le : left ≤ left'
  right_le : right ≤ right'
  stay_iff : left = left' ↔ right = right'

namespace MoveTogether

variable {left right left' right' left'' right'' : Nat}

theorem refl (left right : Nat) : MoveTogether left right left right :=
  ⟨Nat.le_refl left, Nat.le_refl right, by simp⟩

theorem trans (h : MoveTogether left right left' right')
    (h' : MoveTogether left' right' left'' right'') :
    MoveTogether left right left'' right'' := by
  have hstay := h.stay_iff
  have hstay' := h'.stay_iff
  have := h.left_le
  have := h.right_le
  have := h'.left_le
  have := h'.right_le
  exact ⟨by omega, by omega, by omega⟩

theorem lt_iff (h : MoveTogether left right left' right') : left < left' ↔ right < right' := by
  have hstay := h.stay_iff
  have := h.left_le
  have := h.right_le
  omega

end MoveTogether

namespace Correspondence

variable (R : Correspondence) {α β : Type}

inductive Agree (left right : Nat) : Outcome α × Progress → Outcome α × Progress → Prop where
  | exhausted (p : Progress) (result : Outcome α × Progress) :
      Agree left right (.exhausted, p) result
  | failed {p q : Progress} (hprogress : R.progress p q) :
      Agree left right (.failed, p) (.failed, q)
  | matched {left' right' : Nat} {p q : Progress} (value : α) (hcursor : R.cursor left' right')
      (hmove : MoveTogether left right left' right') (hprogress : R.progress p q) :
      Agree left right (.matched value left', p) (.matched value right', q)

/-- Attempts whose results agree from all states of progress that belong together. -/
def Related (left right : Nat) (a b : Attempt α) : Prop :=
  ∀ p q, R.progress p q → R.Agree left right (a p) (b q)

variable {R} {left right left' right' : Nat}

namespace Related

theorem exhausted (b : Attempt α) : R.Related left right Attempt.exhausted b :=
  fun p q _ => .exhausted p (b q)

theorem failed : R.Related left right (Attempt.failed : Attempt α) Attempt.failed :=
  fun _ _ hprogress => .failed hprogress

theorem matched (value : α) (hcursor : R.cursor left' right')
    (hmove : MoveTogether left right left' right') :
    R.Related left right (Attempt.matched value left') (Attempt.matched value right') :=
  fun _ _ hprogress => .matched value hcursor hmove hprogress

theorem after {a b : Attempt α} {event event' : Event} (h : R.Related left right a b)
    (hevent : ∀ p q, R.progress p q → R.progress (p.record event) (q.record event')) :
    R.Related left right (a.after event) (b.after event') :=
  fun p q hprogress => h _ _ (hevent p q hprogress)

theorem resume {a b : Attempt α} {f g : α → Nat → Attempt β} {a' b' : Attempt β}
    (h : R.Related left right a b)
    (hmatch : ∀ value left' right', R.cursor left' right' → MoveTogether left right left' right' →
      R.Related left right (f value left') (g value right'))
    (hfail : R.Related left right a' b') :
    R.Related left right (a.resume f a') (b.resume g b') := by
  intro p q hprogress
  have hagree := h p q hprogress
  unfold Attempt.resume
  generalize a p = first at hagree ⊢
  generalize b q = second at hagree ⊢
  cases hagree with
  | exhausted p => exact .exhausted p _
  | failed hprogress => exact hfail _ _ hprogress
  | matched value hcursor hmove hprogress => exact hmatch value _ _ hcursor hmove _ _ hprogress

theorem andThen {a b : Attempt α} {f g : α → Nat → Attempt β} (h : R.Related left right a b)
    (hmatch : ∀ value left' right', R.cursor left' right' → MoveTogether left right left' right' →
      R.Related left right (f value left') (g value right')) :
    R.Related left right (a.andThen f) (b.andThen g) :=
  h.resume hmatch failed

theorem orElse {a b a' b' : Attempt α} (h : R.Related left right a b)
    (h' : R.Related left right a' b') : R.Related left right (a.orElse a') (b.orElse b') :=
  h.resume (fun value _ _ hcursor hmove => matched value hcursor hmove) h'

theorem map {a b : Attempt α} (f : α → β) (h : R.Related left right a b) :
    R.Related left right (a.map f) (b.map f) :=
  h.andThen fun value _ _ hcursor hmove => matched (f value) hcursor hmove

theorem of_move {a b : Attempt α} (hmove : MoveTogether left right left' right')
    (h : R.Related left' right' a b) : R.Related left right a b := by
  intro p q hprogress
  have hagree := h p q hprogress
  generalize a p = first at hagree ⊢
  generalize b q = second at hagree ⊢
  cases hagree with
  | exhausted p => exact .exhausted p _
  | failed hprogress => exact .failed hprogress
  | matched value hcursor hmove' hprogress =>
    exact .matched value hcursor (hmove.trans hmove') hprogress

end Related

/-- Skipping goes on together for as long as its steps do. The second run needs as much fuel as the
first, or enough to take a step at every cursor up to a bound. -/
theorem chain {a b : Nat → Attempt Unit}
    (hstep : ∀ left right, R.cursor left right → R.Related left right (a left) (b right))
    (fuel fuel' : Nat) (hcursor : R.cursor left right)
    (hfuel : fuel ≤ fuel' ∨
      ∃ bound, (∀ left right, R.cursor left right → right ≤ bound) ∧ bound < right + fuel') :
    R.Related left right (Attempt.chain a fuel left) (Attempt.chain b fuel' right) := by
  induction fuel generalizing fuel' left right with
  | zero => exact Related.exhausted _
  | succ fuel ih =>
    obtain ⟨fuel', rfl⟩ : ∃ n, fuel' = n + 1 := by
      refine ⟨fuel' - 1, ?_⟩
      rcases hfuel with hle | ⟨bound, hbound, hlt⟩
      · omega
      · have := hbound left right hcursor
        omega
    have hstay : R.Related left right (Attempt.matched () left) (Attempt.matched () right) :=
      Related.matched () hcursor (.refl left right)
    refine (hstep left right hcursor).resume (fun _ left' right' hcursor' hmove => ?_) hstay
    by_cases hadvance : left < left'
    · have hadvance' : right < right' := hmove.lt_iff.1 hadvance
      rw [if_pos hadvance, if_pos hadvance']
      refine Related.of_move hmove (ih fuel' hcursor' ?_)
      rcases hfuel with hle | ⟨bound, hbound, hlt⟩
      · exact Or.inl (by omega)
      · exact Or.inr ⟨bound, hbound, by omega⟩
    · have hadvance' : ¬ right < right' := mt hmove.lt_iff.2 hadvance
      rw [if_neg hadvance, if_neg hadvance']
      exact hstay

section Run

variable {ρ : Nat → Type} {first second : Setting ρ} {fuel fuel' : Nat}

/-! ### One step, combinator by combinator -/

/-- Two parsers that agree from all cursors that belong together, each in its setting and with its
fuel. -/
def Aligned (R : Correspondence) (first second : Setting ρ) (fuel fuel' : Nat) (a b : Parser ρ α) :
    Prop :=
  ∀ left right, R.cursor left right →
    R.Related left right (a.run fuel first left) (b.run fuel' second right)

namespace Aligned

variable {a a' : Parser ρ α} {b b' : Parser ρ β}

theorem exhausted : R.Aligned first second 0 fuel' a a' :=
  fun _ _ _ => Related.exhausted _

section Two

variable (ha : R.Aligned first second fuel fuel' a a') (hb : R.Aligned first second fuel fuel' b b')

include ha hb

theorem seq : R.Aligned first second (fuel + 1) (fuel' + 1) (.seq a b) (.seq a' b') := by
  intro left right hcursor
  rw [Parser.run_seq, Parser.run_seq]
  refine (ha _ _ hcursor).andThen fun _ _ _ hmiddle hmove => ?_
  exact .of_move hmove ((hb _ _ hmiddle).map _)

theorem thenIgnore :
    R.Aligned first second (fuel + 1) (fuel' + 1) (.thenIgnore a b) (.thenIgnore a' b') := by
  intro left right hcursor
  rw [Parser.run_thenIgnore, Parser.run_thenIgnore]
  refine (ha _ _ hcursor).andThen fun _ _ _ hmiddle hmove => ?_
  exact .of_move hmove ((hb _ _ hmiddle).map _)

theorem ignoreThen :
    R.Aligned first second (fuel + 1) (fuel' + 1) (.ignoreThen a b) (.ignoreThen a' b') := by
  intro left right hcursor
  rw [Parser.run_ignoreThen, Parser.run_ignoreThen]
  refine (ha _ _ hcursor).andThen fun _ _ _ hmiddle hmove => ?_
  exact .of_move hmove (hb _ _ hmiddle)

theorem either : R.Aligned first second (fuel + 1) (fuel' + 1) (.either a b) (.either a' b') := by
  intro left right hcursor
  rw [Parser.run_either, Parser.run_either]
  exact ((ha _ _ hcursor).map _).orElse ((hb _ _ hcursor).map _)

theorem exclude :
    R.Aligned first second (fuel + 1) (fuel' + 1) (.exclude a b) (.exclude a' b') := by
  intro left right hcursor
  rw [Parser.run_exclude, Parser.run_exclude]
  refine (ha _ _ hcursor).andThen fun value _ _ hnext hmove => ?_
  exact (hb _ _ hcursor).resume (fun _ _ _ _ _ => .failed) (.matched value hnext hmove)

end Two

theorem alt {b b' : Parser ρ α} (ha : R.Aligned first second fuel fuel' a a')
    (hb : R.Aligned first second fuel fuel' b b') :
    R.Aligned first second (fuel + 1) (fuel' + 1) (.alt a b) (.alt a' b') := by
  intro left right hcursor
  rw [Parser.run_alt, Parser.run_alt]
  exact (ha _ _ hcursor).orElse (hb _ _ hcursor)

theorem many (ha : R.Aligned first second fuel fuel' a a')
    (hrest : R.Aligned first second fuel fuel' (.many a) (.many a')) :
    R.Aligned first second (fuel + 1) (fuel' + 1) (.many a) (.many a') := by
  intro left right hcursor
  rw [Parser.run_many, Parser.run_many]
  refine (ha _ _ hcursor).resume (fun value left' right' hnext hmove => ?_)
    (.matched [] hcursor (.refl left right))
  by_cases hadvance : left < left'
  · rw [if_pos hadvance, if_pos (hmove.lt_iff.1 hadvance)]
    exact .of_move hmove ((hrest _ _ hnext).map _)
  · rw [if_neg hadvance, if_neg (mt hmove.lt_iff.2 hadvance)]
    exact .matched [value] hcursor (.refl left right)

theorem many1 (hitems : R.Aligned first second fuel fuel' (.many a) (.many a')) :
    R.Aligned first second (fuel + 1) (fuel' + 1) (.many1 a) (.many1 a') := by
  intro left right hcursor
  rw [Parser.run_many1, Parser.run_many1]
  refine (hitems _ _ hcursor).andThen fun values _ _ hnext hmove => ?_
  split
  · exact .failed
  · exact .matched values hnext hmove

section One

variable (ha : R.Aligned first second fuel fuel' a a')

include ha

theorem discard : R.Aligned first second (fuel + 1) (fuel' + 1) (.discard a) (.discard a') := by
  intro left right hcursor
  rw [Parser.run_discard, Parser.run_discard]
  exact (ha _ _ hcursor).map _

theorem optional : R.Aligned first second (fuel + 1) (fuel' + 1) (.optional a) (.optional a') := by
  intro left right hcursor
  rw [Parser.run_optional, Parser.run_optional]
  exact ((ha _ _ hcursor).map _).orElse (.matched none hcursor (.refl left right))

theorem map (f : α → β) : R.Aligned first second (fuel + 1) (fuel' + 1) (.map f a) (.map f a') := by
  intro left right hcursor
  rw [Parser.run_map, Parser.run_map]
  exact (ha _ _ hcursor).map f

end One

section Rule

variable {handle : Rule} {owner : UInt32}

theorem unknownRule (hnone : first.grammar.body? handle = none)
    (hnone' : second.grammar.body? { handle with owner } = none) :
    R.Aligned first second (fuel + 1) (fuel' + 1) (.rule handle) (.rule { handle with owner }) := by
  intro left right hcursor
  rw [Parser.run_rule, Parser.run_rule, hnone, hnone']
  exact Related.failed.after fun _ _ => R.unknownRule handle.name

theorem rule {body body' : Parser ρ (ρ handle.output)}
    (hbody : first.grammar.body? handle = some body)
    (hbody' : second.grammar.body? { handle with owner } = some body')
    (h : R.Aligned first second fuel fuel' body body') :
    R.Aligned first second (fuel + 1) (fuel' + 1) (.rule handle) (.rule { handle with owner }) := by
  intro left right hcursor
  rw [Parser.run_rule, Parser.run_rule, hbody, hbody']
  refine Related.after ?_ fun _ _ => R.enteredRule handle.name hcursor
  refine (h _ _ hcursor).resume (fun value _ _ hnext hmove => ?_) ?_
  · exact (Related.matched value hnext hmove).after fun _ _ => R.leftRule handle.name true hnext
  · exact Related.failed.after fun _ _ => R.leftRule handle.name false hcursor

end Rule

end Aligned

/-! ### One step, and whole runs -/

/-- **One step.** A parser agrees with itself if its primitives and the parsers it calls do. -/
theorem run_succ {parser : Parser ρ α} (hparser : parser.IsLibrary)
    (hgrammar : second.grammar = first.grammar)
    (hprimitive : ∀ {γ : Type} (wanted : Primitive γ),
      ∀ left right, R.cursor left right →
        R.Related left right (Parser.run (fuel + 1) first (.primitive wanted) left)
          (Parser.run (fuel' + 1) second (.primitive wanted) right))
    (hcalls : ∀ {γ : Type} {called : Parser ρ γ}, Parser.Calls first.grammar parser called →
      ∀ left right, R.cursor left right →
        R.Related left right (called.run fuel first left) (called.run fuel' second right))
    (hcursor : R.cursor left right) :
    R.Related left right (parser.run (fuel + 1) first left)
      (parser.run (fuel' + 1) second right) := by
  refine (?_ : R.Aligned first second (fuel + 1) (fuel' + 1) parser parser) left right hcursor
  cases parser with
  | primitive wanted => exact hprimitive wanted
  | seq a b => exact .seq (hcalls (.seqFirst a b)) (hcalls (.seqSecond a b))
  | thenIgnore a b =>
    exact .thenIgnore (hcalls (.thenIgnoreFirst a b)) (hcalls (.thenIgnoreSecond a b))
  | ignoreThen a b =>
    exact .ignoreThen (hcalls (.ignoreThenFirst a b)) (hcalls (.ignoreThenSecond a b))
  | alt a b => exact .alt (hcalls (.altFirst a b)) (hcalls (.altSecond a b))
  | either a b => exact .either (hcalls (.eitherFirst a b)) (hcalls (.eitherSecond a b))
  | many item => exact .many (hcalls (.manyItem item)) (hcalls (.manyRest item))
  | many1 item => exact .many1 (hcalls (.many1 item))
  | exclude a b => exact .exclude (hcalls (.excludeInner a b)) (hcalls (.excludeExcluded a b))
  | discard a => exact .discard (hcalls (.discard a))
  | optional a => exact .optional (hcalls (.optional a))
  | map f a => exact .map (hcalls (.map f a)) f
  | rule handle =>
    cases hbody : first.grammar.body? handle with
    | none => exact .unknownRule hbody (hgrammar ▸ hbody)
    | some body => exact .rule hbody (hgrammar ▸ hbody) (hcalls (.rule hbody))
  | unskipped a => exact hparser.elim
  | custom act => exact hparser.elim

/-- **Whole runs.** Two runs of a library parser agree if its primitives do, whatever the fuel. -/
theorem run (hfirst : first.grammar.IsLibrary) (hgrammar : second.grammar = first.grammar)
    (extra : Nat)
    (hprimitive : ∀ fuel {γ : Type} (wanted : Primitive γ),
      ∀ left right, R.cursor left right →
        R.Related left right (Parser.run (fuel + 1) first (.primitive wanted) left)
          (Parser.run (fuel + extra + 1) second (.primitive wanted) right))
    (fuel : Nat) {parser : Parser ρ α} (hparser : parser.IsLibrary)
    (hcursor : R.cursor left right) :
    R.Related left right (parser.run fuel first left) (parser.run (fuel + extra) second right) := by
  induction fuel generalizing α parser left right with
  | zero => exact Related.exhausted _
  | succ fuel ih =>
    rw [Nat.add_right_comm]
    refine run_succ hparser hgrammar (hprimitive fuel) (fun hcalls left right hcursor => ?_) hcursor
    exact ih (hcalls.isLibrary hfirst hparser) hcursor

end Run

end Correspondence

end TokenGrammar
