/-!
# Words

Offsets into a source, and the serial numbers of definitions and rules, are kept in words of 32
bits. What does not fit is cut off at the largest word. Operations on words and positions that are
called outside of what they allow give a fault.
-/

namespace TokenGrammar

inductive Fault where
  | indexOutOfBounds (size index : Nat)
  | subtractionOverflow
  | additionOverflow
deriving DecidableEq, Repr

namespace Fault

def message : Fault → String
  | indexOutOfBounds size index =>
    s!"index out of bounds: the len is {size} but the index is {index}"
  | subtractionOverflow => "attempt to subtract with overflow"
  | additionOverflow => "attempt to add with overflow"

end Fault

namespace Word

/-- The largest number that fits. -/
def limit : Nat := 4294967295

/-- The largest word stands for every number that does not fit. -/
def clamp (n : Nat) : UInt32 := UInt32.ofNat (min n limit)

theorem toNat_clamp (n : Nat) : (clamp n).toNat = min n limit := by
  rw [clamp, UInt32.toNat_ofNat', limit]
  omega

theorem toNat_clamp_of_le {n : Nat} (h : n ≤ limit) : (clamp n).toNat = n := by
  rw [toNat_clamp, Nat.min_eq_left h]

theorem clamp_toNat (word : UInt32) : clamp word.toNat = word := by
  have hlt : word.toNat < 4294967296 := word.toNat_lt
  rw [clamp, limit, Nat.min_eq_left (by omega), UInt32.ofNat_toNat]

end Word

/-- The place of a definition in its lexicon, or of a rule in its grammar, counted from zero. -/
structure Serial where
  word : UInt32
deriving DecidableEq, Repr

namespace Serial

def ofIndex (index : Nat) : Serial := ⟨Word.clamp index⟩

def index (serial : Serial) : Nat := serial.word.toNat

instance (n : Nat) : OfNat Serial n := ⟨ofIndex n⟩

instance : CoeOut Serial Nat := ⟨index⟩

theorem index_ofIndex (index : Nat) : (ofIndex index).index = min index Word.limit :=
  Word.toNat_clamp index

theorem index_ofIndex_of_le {index : Nat} (h : index ≤ Word.limit) :
    (ofIndex index).index = index :=
  Word.toNat_clamp_of_le h

theorem ofIndex_index (serial : Serial) : ofIndex serial.index = serial := by
  rw [ofIndex, index, Word.clamp_toNat]

theorem index_inj {left right : Serial} : left.index = right.index ↔ left = right := by
  refine ⟨fun h => ?_, congrArg index⟩
  rw [← ofIndex_index left, h, ofIndex_index]

theorem ofIndex_eq_iff {left right : Nat} :
    ofIndex left = ofIndex right ↔ min left Word.limit = min right Word.limit := by
  rw [← index_ofIndex, ← index_ofIndex, index_inj]

end Serial

end TokenGrammar
