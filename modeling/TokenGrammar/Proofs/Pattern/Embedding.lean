import Mathlib.Data.Option.Basic
import TokenGrammar.Pattern.Reader

/-!
# Patterns before a closing parenthesis

A text that is a pattern on its own is read in the same way before a closing parenthesis. No part of
the reader goes past the end of what it reads, except that a comment hides the parenthesis if no
line ends before it.
-/

namespace TokenGrammar

namespace Pattern

/-- Where a pattern is read on its own, and where it is read before a closing parenthesis, which a
comment may have hidden. -/
structure Reading.Within (alone inside : Reading) : Prop where
  rest : inside.rest = alone.rest ∨ inside.rest = alone.rest ++ [')']
  flags : inside.flags = alone.flags
  groupNames : inside.groupNames = alone.groupNames

namespace Reader

variable {α β : Type}

/-- What the first reader reads on its own, the second one reads before a closing parenthesis. -/
def Embeds (alone inside : Reader α) : Prop :=
  ∀ before before' value after, before.Within before' → alone.run before = some (value, after) →
    ∃ after', inside.run before' = some (value, after') ∧ after.Within after'

/-! ### Steps -/

namespace Embeds

variable {alone inside : Reader α} {first first' : α → Reader β}

theorem pure (value : α) : Embeds (pure value) (pure value) := by
  rintro before before' _ _ hwithin ⟨⟩
  exact ⟨before', rfl, hwithin⟩

theorem failure (inside : Reader α) : Embeds failure inside := by
  rintro _ _ _ _ - ⟨⟩

theorem bind (h : Embeds alone inside) (hnext : ∀ value, Embeds (first value) (first' value)) :
    Embeds (alone >>= first) (inside >>= first') := by
  intro before before' value after hwithin hread
  rw [StateT.run_bind] at hread
  obtain ⟨⟨middle, reading⟩, hmiddle, hread⟩ := Option.bind_eq_some_iff.1 hread
  obtain ⟨reading', hmiddle', hwithin'⟩ := h _ _ _ _ hwithin hmiddle
  obtain ⟨after', hread', hafter⟩ := hnext middle _ _ _ _ hwithin' hread
  refine ⟨after', ?_, hafter⟩
  rw [StateT.run_bind, hmiddle']
  exact hread'

end Embeds

end Reader

end Pattern

end TokenGrammar
