import TokenGrammar.Proofs.Session

/-!
# The furthest cell

While parsers are tried, the furthest refused position is written down by every failing token, also
in attempts that are given up later. No parser looks at it: an attempt has an outcome and a reach of
its own, and it leaves the cell at its reach if that is further than what the cell held before. So
an attempt that is made again ends in the same way and finds nothing more to write down.
-/

namespace TokenGrammar

namespace Correspondence

/-- One run beside itself, where the second has already refused a token at `floor`. -/
def raised (floor : Nat) : Correspondence where
  cursor := Eq
  progress p q := q.furthest = max floor p.furthest
  enteredRule := fun _ _ hprogress => hprogress
  leftRule := fun _ _ _ hprogress => hprogress
  unknownRule := fun _ hprogress => hprogress

theorem raised_note {floor : Nat} {p q : Progress} (cursor : Nat)
    (hprogress : (raised floor).progress p q) :
    (raised floor).progress (p.note cursor) (q.note cursor) := by
  change max q.furthest cursor = max floor (max p.furthest cursor)
  rw [show q.furthest = max floor p.furthest from hprogress, Nat.max_assoc]

/-- An attempt that only raises the cell gives what it gives where nothing was refused before. -/
theorem gives_of_raised {α : Type} {attempt : Attempt α} {cursor : Nat}
    (hraised : ∀ floor, (raised floor).Related cursor cursor attempt attempt)
    (hanswer : (attempt ⟨0, []⟩).1 ≠ .exhausted) :
    attempt.Gives (attempt ⟨0, []⟩).1 (attempt ⟨0, []⟩).2.furthest := by
  intro progress
  have hstart : (raised progress.furthest).progress ⟨0, []⟩ progress :=
    (Nat.max_zero progress.furthest).symm
  have hagree := hraised progress.furthest ⟨0, []⟩ progress hstart
  generalize attempt ⟨0, []⟩ = fresh at hagree hanswer ⊢
  generalize attempt progress = later at hagree ⊢
  cases hagree with
  | exhausted => exact absurd rfl hanswer
  | failed hprogress => exact ⟨rfl, hprogress⟩
  | matched value hcursor hmove hprogress =>
    obtain rfl : _ = _ := hcursor
    exact ⟨rfl, hprogress⟩

end Correspondence

namespace Parser

variable {ρ : Nat → Type} {α : Type} {setting : Setting ρ} {parser : Parser ρ α} {cursor fuel : Nat}

theorem take_raised (floor : Nat) (wanted : Primitive α) (left right : Nat)
    (hcursor : (Correspondence.raised floor).cursor left right) :
    (Correspondence.raised floor).Related left right (take setting wanted left)
      (take setting wanted right) := by
  obtain rfl : left = right := hcursor
  apply take_related
  · intro _
    rfl
  · intro p q hprogress
    exact Correspondence.raised_note left hprogress
  · intro event p q hprogress
    exact hprogress

/-- A run that does not run out of fuel gives what it gives where nothing was refused before. -/
theorem run_gives (hsetting : setting.IsLibrary) (hparser : parser.IsLibrary)
    (hanswer : (parser.run fuel setting cursor ⟨0, []⟩).1 ≠ .exhausted) :
    (parser.run fuel setting cursor).Gives (parser.run fuel setting cursor ⟨0, []⟩).1
      (parser.run fuel setting cursor ⟨0, []⟩).2.furthest :=
  Correspondence.gives_of_raised (fun floor =>
    Correspondence.run_of_take hsetting rfl rfl (take_raised floor) 0 fuel hparser rfl) hanswer

theorem Halts.answers (hhalts : parser.Halts setting cursor) (hsetting : setting.IsLibrary)
    (hparser : parser.IsLibrary) :
    ∃ outcome reach, outcome ≠ .exhausted ∧ parser.Answers setting cursor outcome reach := by
  obtain ⟨least, hanswer⟩ := hhalts
  refine ⟨(parser.run least setting cursor ⟨0, []⟩).1,
    (parser.run least setting cursor ⟨0, []⟩).2.furthest, hanswer, least, fun fuel hfuel => ?_⟩
  have hmore := run_eq_of_le hsetting hparser hfuel hanswer
  rw [← hmore] at hanswer ⊢
  exact run_gives hsetting hparser hanswer

theorem Answers.halts {outcome : Outcome α} {reach : Nat}
    (hanswers : parser.Answers setting cursor outcome reach) (hne : outcome ≠ .exhausted) :
    parser.Halts setting cursor := by
  obtain ⟨fuel, hgives⟩ := hanswers
  exact ⟨fuel, by rwa [(hgives fuel (Nat.le_refl fuel) ⟨0, []⟩).1]⟩

end Parser

namespace Session

variable {ρ : Nat → Type} {α : Type}

/-- **The furthest cell is only written.** Where a library parser halts it has an outcome and a
reach. Whatever the cell holds, the parser ends with this outcome and leaves the cell at its reach
or as it was, if that is further; and trying it again ends alike and leaves the cell alone. -/
theorem attempt_raises_furthest (session : Session ρ) (parser : Parser ρ α)
    (skip? : Option (Parser ρ Unit)) (finish cursor : Nat) (hgrammar : session.grammar.IsLibrary)
    (hparser : parser.IsLibrary) (hskip : ∀ skip, skip? = some skip → skip.IsLibrary)
    (hhalts : parser.Halts (Setting.new session.tokens finish session.grammar skip?) cursor) :
    ∃ outcome reach, outcome ≠ .exhausted ∧
      ∀ fuel, session.allowance parser skip? ≤ fuel → ∀ progress,
        let setting := Setting.new session.tokens finish session.grammar skip?
        let first := parser.run fuel setting cursor progress
        let second := parser.run fuel setting cursor first.2
        (first.1 = outcome ∧ first.2.furthest = max progress.furthest reach) ∧
          second.1 = outcome ∧ second.2.furthest = first.2.furthest := by
  have hsetting : (Setting.new session.tokens finish session.grammar skip?).IsLibrary :=
    ⟨hgrammar, hskip⟩
  obtain ⟨outcome, reach, hne, hanswers⟩ := hhalts.answers hsetting hparser
  have hallowed := run_allowance_gives hgrammar hparser hskip hanswers hne
  refine ⟨outcome, reach, hne, ?_⟩
  intro fuel hfuel progress setting first second
  have hgives : (parser.run fuel setting cursor).Gives outcome reach := by
    intro progress
    rw [(run_allowance_le hgrammar hparser hskip hhalts hfuel progress).2]
    exact hallowed progress
  obtain ⟨hsame, hraised⟩ := hgives first.2
  refine ⟨hgives progress, hsame, ?_⟩
  rw [hraised, (hgives progress).2, Nat.max_assoc, Nat.max_self]

/-- Letters up to a digit: the digit is refused, and the cell stays ahead where it is ahead. -/
theorem attempt_at_letters_before_digit :
    let letter : Kind String := ⟨0, "letter", some⟩
    let letters : Parser String (List String) := .many (.rule ⟨1, 0, "letter", 0⟩)
    let skip : Parser String Unit := .token ⟨1, "blank", fun _ => some ()⟩
    let session : Session String := ⟨⟨1, [⟨"letter", 0, .token letter⟩]⟩,
      ⟨#[⟨0, "letter", "a", .ofOffsets 0 1⟩, ⟨1, "blank", " ", .ofOffsets 1 2⟩,
        ⟨0, "letter", "b", .ofOffsets 2 3⟩, ⟨2, "digit", "7", .ofOffsets 3 4⟩], 4⟩⟩
    let setting := Setting.new session.tokens 4 session.grammar (some skip)
    letters.Halts setting 0 ∧ ∀ floor events,
      let first := letters.run (session.allowance letters (some skip)) setting 0 ⟨floor, events⟩
      let second := letters.run (session.allowance letters (some skip)) setting 0 first.2
      first.1 = .matched ["a", "b"] 3 ∧ first.2.furthest = max floor 3 ∧
        second.1 = .matched ["a", "b"] 3 ∧ second.2.furthest = max floor 3 := by
  intro letter letters skip session setting
  have hhalts : letters.Halts setting 0 := ⟨8, by decide⟩
  have hgrammar : session.grammar.IsLibrary := by
    rintro rule (_ | ⟨_, ⟨⟩⟩)
    trivial
  have hskip : skip.IsLibrary := trivial
  obtain ⟨outcome, reach, -, hattempts⟩ := attempt_raises_furthest session letters (some skip) 4 0
    hgrammar trivial (fun _ => hskip.of_some_eq) hhalts
  have hattempt := hattempts _ (Nat.le_refl _)
  -- What the attempt does where the cell holds nothing decides what it does everywhere.
  obtain ⟨⟨houtcome, hreach⟩, -⟩ := hattempt ⟨0, []⟩
  obtain rfl : outcome = .matched ["a", "b"] 3 := by
    rw [← houtcome]
    rfl
  obtain rfl : reach = 3 := by
    rw [← Nat.zero_max reach, ← hreach]
    rfl
  refine ⟨hhalts, ?_⟩
  intro floor events first second
  obtain ⟨⟨hfirst, hcell⟩, hsecond, hsame⟩ := hattempt ⟨floor, events⟩
  exact ⟨hfirst, hcell, hsecond, hsame.trans hcell⟩

end Session

end TokenGrammar
