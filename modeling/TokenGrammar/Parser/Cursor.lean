import TokenGrammar.Token.Span

/-!
# Cursors

A position in a sequence of tokens as a 64-bit word, the first position being zero.
-/

namespace TokenGrammar

structure Cursor where
  position : UInt64
deriving DecidableEq, Repr

namespace Cursor

def start : Cursor := ⟨0⟩

/-- The position after this one; the largest word has none. -/
def next (cursor : Cursor) : Except Fault Cursor :=
  if cursor.position.toNat + 1 < 18446744073709551616 then .ok ⟨cursor.position + 1⟩
  else .error .additionOverflow

def compare (left right : Cursor) : Ordering := Ord.compare left.position right.position

def max (left right : Cursor) : Cursor := if left.position ≤ right.position then right else left

def describe (cursor : Cursor) : String := s!"Cursor({cursor.position.toNat})"

theorem next_ofNat {position : Nat} (h : position + 1 < 18446744073709551616) :
    next ⟨.ofNat position⟩ = .ok ⟨.ofNat (position + 1)⟩ := by
  have hposition : (UInt64.ofNat position).toNat = position :=
    UInt64.toNat_ofNat_of_lt' (Nat.lt_of_succ_lt h)
  rw [next, hposition, if_pos h]
  simp

end Cursor

end TokenGrammar
