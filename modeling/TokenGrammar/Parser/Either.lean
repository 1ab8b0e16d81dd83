import TokenGrammar.Parser.Run

/-!
# Either of two types

A choice between parsers of two types says which of them matched. It tries what an alternative
tries, and taking both sides to one type afterwards is the same as doing so in each alternative.
-/

namespace TokenGrammar

namespace Either

def describe : String ⊕ String → String
  | .inl left => "Left(" ++ Text.quoted left ++ ")"
  | .inr right => "Right(" ++ Text.quoted right ++ ")"

/-- The text itself, whichever side it is on. -/
def inner : String ⊕ String → String := Sum.elim id id

end Either

namespace Attempt

variable {α β γ : Type} (attempt alternative : Attempt α)

theorem map_map (f : α → β) (g : β → γ) : (attempt.map f).map g = attempt.map (g ∘ f) := by
  funext progress
  simp only [map, andThen, resume]
  rcases attempt progress with ⟨⟨⟩, _⟩ <;> rfl

theorem map_orElse (f : α → β) :
    (attempt.orElse alternative).map f = (attempt.map f).orElse (alternative.map f) := by
  funext progress
  simp only [orElse, map, andThen, resume]
  rcases attempt progress with ⟨⟨⟩, _⟩ <;> rfl

end Attempt

namespace Parser

variable {ρ : Nat → Type} {α β γ : Type} (fuel : Nat) (setting : Setting ρ)
  (first : Parser ρ α) (second : Parser ρ β) (cursor : Nat)

theorem run_either_eq_alt :
    run (fuel + 1) setting (either first second) cursor =
      run (fuel + 2) setting (alt (map Sum.inl first) (map Sum.inr second)) cursor := rfl

theorem run_map_either (f : α → γ) (g : β → γ) :
    run (fuel + 2) setting (map (Sum.elim f g) (either first second)) cursor =
      run (fuel + 2) setting (alt (map f first) (map g second)) cursor :=
  calc run (fuel + 2) setting (map (Sum.elim f g) (either first second)) cursor
      = (((run fuel setting first cursor).map Sum.inl).orElse
          ((run fuel setting second cursor).map Sum.inr)).map (Sum.elim f g) := by
        rw [run_map, run_either]
    _ = (((run fuel setting first cursor).map Sum.inl).map (Sum.elim f g)).orElse
          (((run fuel setting second cursor).map Sum.inr).map (Sum.elim f g)) :=
        Attempt.map_orElse _ _ _
    _ = ((run fuel setting first cursor).map f).orElse
          ((run fuel setting second cursor).map g) := by
        rw [Attempt.map_map, Attempt.map_map, Sum.elim_comp_inl, Sum.elim_comp_inr]
    _ = run (fuel + 2) setting (alt (map f first) (map g second)) cursor := by
        rw [run_alt, run_map, run_map]

/-- Counts of strokes and names. A value is either of them, and of another type than a list of
values. -/
example :
    let strokes : Kind Nat := ⟨0, "strokes", fun text => some text.length⟩
    let name : Kind String := ⟨1, "name", some⟩
    let lists : Nat → Type := fun depth => Nat.repeat List depth (Nat ⊕ String)
    let value : Rule := ⟨1, 0, "value", 0⟩
    let values : Rule := ⟨1, 1, "values", 1⟩
    let grammar : Grammar (RuleBody lists) := ⟨1,
      [⟨"value", 0, either (token strokes) (token name)⟩, ⟨"values", 1, many (rule value)⟩]⟩
    let tokens : TokenSequence :=
      ⟨#[⟨0, "strokes", "|||", .ofOffsets 0 3⟩, ⟨1, "name", "x", .ofOffsets 3 4⟩], 4⟩
    (run 12 (Setting.new tokens 2 grammar none) (rule values) 0 ⟨0, []⟩).1 =
      .matched [.inl 3, .inr "x"] 2 := by rfl

end Parser

end TokenGrammar
