/-!
# Byte offsets into a text

Offsets count the bytes of the UTF-8 form. An offset inside a character, or past the end, names no
place in the text.
-/

namespace TokenGrammar.Text

def byteSize (text : List Char) : Nat := text.foldr (fun c size => c.utf8Size + size) 0

@[simp] theorem byteSize_nil : byteSize [] = 0 := rfl

@[simp] theorem byteSize_cons (c : Char) (text : List Char) :
    byteSize (c :: text) = c.utf8Size + byteSize text := rfl

@[simp] theorem byteSize_append (left right : List Char) :
    byteSize (left ++ right) = byteSize left + byteSize right := by
  induction left with
  | nil => simp
  | cons c rest ih => rw [List.cons_append, byteSize_cons, byteSize_cons, ih, Nat.add_assoc]

theorem utf8ByteSize_ofList (text : List Char) :
    (String.ofList text).utf8ByteSize = byteSize text := by
  induction text with
  | nil => simp
  | cons c rest ih =>
    have hsplit : String.ofList (c :: rest) = String.singleton c ++ String.ofList rest := by
      rw [String.singleton_eq_ofList, ← String.ofList_append, List.singleton_append]
    rw [hsplit, String.utf8ByteSize_append, String.utf8ByteSize_singleton, ih, byteSize_cons]

theorem byteSize_toList (text : String) : byteSize text.toList = text.utf8ByteSize := by
  rw [← utf8ByteSize_ofList, String.ofList_toList]

/-- The offset lies between two characters of the text or at one of its ends. -/
def IsBoundary (text : List Char) (offset : Nat) : Prop :=
  ∃ before after, before ++ after = text ∧ byteSize before = offset

/-- The characters before and from the given byte offset. -/
def splitAtByte? : Nat → List Char → Option (List Char × List Char)
  | 0, text => some ([], text)
  | _ + 1, [] => none
  | offset + 1, c :: rest =>
    if c.utf8Size ≤ offset + 1 then
      (splitAtByte? (offset + 1 - c.utf8Size) rest).map fun (before, after) => (c :: before, after)
    else none

theorem splitAtByte?_byteSize (before after : List Char) :
    splitAtByte? (byteSize before) (before ++ after) = some (before, after) := by
  induction before with
  | nil => cases after <;> rfl
  | cons c rest ih =>
    obtain ⟨size, hsize⟩ : ∃ n, c.utf8Size + byteSize rest = n + 1 :=
      ⟨c.utf8Size + byteSize rest - 1, by have := c.utf8Size_pos; omega⟩
    have hrest : size + 1 - c.utf8Size = byteSize rest := by omega
    have hle : c.utf8Size ≤ size + 1 := by omega
    rw [byteSize_cons, hsize, List.cons_append, splitAtByte?, if_pos hle, hrest, ih]
    rfl

/-- The size of a front of a text tells it from all others. -/
theorem append_inj_of_byteSize {front back front' back' : List Char}
    (happend : front ++ back = front' ++ back') (hsize : byteSize front = byteSize front') :
    front = front' ∧ back = back' := by
  have hsplit := splitAtByte?_byteSize front back
  rw [happend, hsize, splitAtByte?_byteSize] at hsplit
  obtain ⟨hfront, hback⟩ := Prod.mk.inj (Option.some.inj hsplit)
  exact ⟨hfront.symm, hback.symm⟩

theorem IsBoundary.isSome_splitAtByte? {text : List Char} {offset : Nat}
    (h : IsBoundary text offset) : (splitAtByte? offset text).isSome = true := by
  obtain ⟨before, after, rfl, rfl⟩ := h
  rw [splitAtByte?_byteSize]
  rfl

end TokenGrammar.Text
