import TokenGrammar.Word

/-!
# Spans

The bytes of a source that a token covers, from `start` up to and without `stop`.
-/

namespace TokenGrammar

structure Span where
  start : UInt32
  stop : UInt32
deriving DecidableEq, Repr

namespace Span

def empty : Span := ⟨0, 0⟩

def ofOffsets (start stop : Nat) : Span := ⟨Word.clamp start, Word.clamp stop⟩

/-- The number of bytes covered, unless the span ends before it starts. -/
def size (span : Span) : Except Fault UInt32 :=
  if span.start ≤ span.stop then .ok (span.stop - span.start) else .error .subtractionOverflow

def isEmpty (span : Span) : Bool := span.start = span.stop

def describe (span : Span) : String := s!"{span.start.toNat}..{span.stop.toNat}"

theorem size_ofOffsets {start stop : Nat} (hle : start ≤ stop) (hfits : stop ≤ Word.limit) :
    (ofOffsets start stop).size = .ok (UInt32.ofNat (stop - start)) := by
  have hstart := Word.toNat_clamp_of_le (Nat.le_trans hle hfits)
  have hstop := Word.toNat_clamp_of_le hfits
  have hwords : Word.clamp start ≤ Word.clamp stop := by
    rw [UInt32.le_iff_toNat_le, hstart, hstop]
    exact hle
  simp only [ofOffsets, size, hwords, if_true, Except.ok.injEq]
  apply UInt32.toNat.inj
  rw [UInt32.toNat_sub_of_le _ _ hwords, hstart, hstop, UInt32.toNat_ofNat']
  rw [Word.limit] at hfits
  omega

end Span

end TokenGrammar
