import Mathlib.Data.List.SplitBy
import TokenGrammar.Console.Dialogue

/-!
# Lines of a text and lines of an input

An input is read as bytes and cut behind each line feed. The byte of the line feed is part of no
other character, so the lines of a text that is given as bytes are the lines of the text, and the
lines of two inputs in a row are those of the first and those of the second if the first one ends
with a line feed.
-/

namespace TokenGrammar

namespace Text

/-- The lines of a text, each with the line feed that ends it. -/
def lines (text : String) : List String :=
  (text.toList.splitBy fun c _ => c != '\n').map String.ofList

/-- Each line in front, and a rest without line feed at last. -/
theorem lines_induction {motive : List Char → Prop}
    (last : ∀ body, '\n' ∉ body → motive body)
    (line : ∀ body rest, '\n' ∉ body → motive rest → motive (body ++ '\n' :: rest))
    (text : List Char) : motive text := by
  have hprepend : ∀ body, '\n' ∉ body → motive (body ++ text) := by
    induction text with
    | nil =>
      intro body hbody
      rw [List.append_nil]
      exact last body hbody
    | cons c text ih =>
      intro body hbody
      by_cases hc : c = '\n'
      · rw [hc]
        exact line body text hbody (ih [] (by simp))
      · rw [← List.singleton_append, ← List.append_assoc]
        refine ih (body ++ [c]) ?_
        simp only [List.mem_append, List.mem_singleton, not_or]
        exact ⟨hbody, Ne.symm hc⟩
  exact hprepend [] (by simp)

theorem isChain_of_not_mem {body : List Char} (hbody : '\n' ∉ body) (last : List Char)
    (hlast : last.IsChain fun c _ => c != '\n') : (body ++ last).IsChain fun c _ => c != '\n' := by
  induction body with
  | nil => exact hlast
  | cons c body ih =>
    rw [List.mem_cons, not_or] at hbody
    refine List.isChain_cons.2 ⟨fun _ _ => ?_, ih hbody.2⟩
    simpa using Ne.symm hbody.1

theorem splitBy_line {body : List Char} (hbody : '\n' ∉ body) (rest : List Char) :
    (body ++ '\n' :: rest).splitBy (fun c _ => c != '\n') =
      (body ++ ['\n']) :: rest.splitBy fun c _ => c != '\n' := by
  have hline : (body ++ ['\n']).splitBy (fun c _ => c != '\n') = [body ++ ['\n']] :=
    List.splitBy_of_isChain (by simp) (isChain_of_not_mem hbody _ (List.isChain_singleton _))
  rw [← List.singleton_append, ← List.append_assoc, List.splitBy_append, hline]
  · rfl
  · simp

theorem splitBy_last {body : List Char} (hbody : '\n' ∉ body) :
    body.splitBy (fun c _ => c != '\n') = if body = [] then [] else [body] := by
  split
  · next hnil => rw [hnil, List.splitBy_nil]
  · next hne =>
    refine List.splitBy_of_isChain hne ?_
    rw [← List.append_nil body]
    exact isChain_of_not_mem hbody [] List.isChain_nil

theorem exists_body_of_mem_lines {text line : String} (h : line ∈ lines text) :
    ∃ body, '\n' ∉ body ∧ (line.toList = body ∨ line.toList = body ++ ['\n']) := by
  obtain ⟨chars, hchars, rfl⟩ := List.mem_map.1 h
  rw [String.toList_ofList]
  generalize text.toList = text at hchars
  induction text using lines_induction with
  | last body hbody =>
    rw [splitBy_last hbody] at hchars
    split at hchars
    · cases hchars
    · exact ⟨body, hbody, Or.inl (List.mem_singleton.1 hchars)⟩
  | line body rest hbody ih =>
    rw [splitBy_line hbody] at hchars
    rcases List.mem_cons.1 hchars with rfl | hrest
    · exact ⟨body, hbody, Or.inr rfl⟩
    · exact ih hrest

/-! ### Bytes -/

def encode (text : List Char) : List UInt8 := text.flatMap String.utf8EncodeChar

@[simp] theorem encode_append (left right : List Char) :
    encode (left ++ right) = encode left ++ encode right := List.flatMap_append

@[simp] theorem encode_lineFeed : encode ['\n'] = [10] := by decide

theorem encode_eq_nil_iff {text : List Char} : encode text = [] ↔ text = [] := by
  cases text with
  | nil => simp [encode]
  | cons c text => simp [encode, String.utf8EncodeChar_ne_nil]

theorem toList_loop_eq (bytes : ByteArray) (index : Nat) (read : List UInt8) :
    ByteArray.toList.loop bytes index read = read.reverse ++ bytes.data.toList.drop index := by
  fun_induction ByteArray.toList.loop bytes index read with
  | case1 index read hlt ih =>
    have hlength : index < bytes.data.toList.length := hlt
    have hget : bytes.get! index = bytes.data.toList[index] := by
      change bytes.data[index]! = bytes.data.toList[index]
      rw [getElem!_pos bytes.data index hlt, Array.getElem_toList]
    rw [ih, List.drop_eq_getElem_cons hlength, hget, List.reverse_cons, List.append_assoc,
      List.singleton_append]
  | case2 index read hge =>
    have hlength : bytes.data.toList.length ≤ index := Nat.le_of_not_lt hge
    rw [List.drop_eq_nil_of_le hlength, List.append_nil]

theorem toList_append (left right : ByteArray) :
    (left ++ right).toList = left.toList ++ right.toList := by
  simp only [ByteArray.toList, toList_loop_eq, ByteArray.toList_data_append, List.reverse_nil,
    List.nil_append, List.drop_zero]

theorem toList_toUTF8 (text : String) : text.toUTF8.toList = encode text.toList := by
  have hbytes : text.toUTF8 = text.toList.utf8Encode := by
    rw [← String.toByteArray_ofList, String.ofList_toList]
    rfl
  rw [hbytes, ByteArray.toList, toList_loop_eq]
  exact List.toList_data_toByteArray

theorem fromUTF8?_encode (text : List Char) :
    String.fromUTF8? ⟨(encode text).toArray⟩ = some (String.ofList text) := by
  have hbytes : (⟨(encode text).toArray⟩ : ByteArray) = (String.ofList text).toByteArray := by
    rw [String.toByteArray_ofList]
    apply ByteArray.ext
    exact List.data_toByteArray.symm
  have hvalid := (String.ofList text).isValidUTF8
  rw [hbytes, String.fromUTF8?, dif_pos hvalid]
  rfl

theorem eq_of_ofNat_eq {n : Nat} (hn : n < 256) (h : (10 : UInt8) = UInt8.ofNat n) : n = 10 := by
  have hvalue : (UInt8.ofNat n).toNat = n := UInt8.toNat_ofNat_of_lt' hn
  rw [← h] at hvalue
  exact hvalue.symm

/-- The byte of the line feed belongs to no other character. -/
theorem eq_of_mem_utf8EncodeChar {c : Char} (h : 10 ∈ String.utf8EncodeChar c) : c = '\n' := by
  rw [String.utf8EncodeChar.eq_1] at h
  split at h
  · next hsmall =>
    have hcode := eq_of_ofNat_eq (by omega) (List.mem_singleton.1 h)
    exact Char.ext (UInt32.toNat_inj.1 hcode)
  · -- All bytes of longer forms are at least 128.
    have hbyte : ∀ n, 128 ≤ n → n < 256 → (10 : UInt8) ≠ UInt8.ofNat n := by
      intro n hlow hhigh heq
      have hten := eq_of_ofNat_eq hhigh heq
      omega
    split at h
    · simp only [List.mem_cons, List.not_mem_nil, or_false] at h
      rcases h with h | h <;> exact absurd h (hbyte _ (by omega) (by omega))
    · split at h
      · simp only [List.mem_cons, List.not_mem_nil, or_false] at h
        rcases h with h | h | h <;> exact absurd h (hbyte _ (by omega) (by omega))
      · simp only [List.mem_cons, List.not_mem_nil, or_false] at h
        rcases h with h | h | h | h <;> exact absurd h (hbyte _ (by omega) (by omega))

theorem not_mem_encode {text : List Char} (h : '\n' ∉ text) : 10 ∉ encode text := by
  intro hmem
  obtain ⟨c, hc, hbyte⟩ := List.mem_flatMap.1 hmem
  rw [eq_of_mem_utf8EncodeChar hbyte] at hc
  exact h hc

end Text

/-! ### Cutting -/

theorem splitLines_line {body : List UInt8} (hbody : 10 ∉ body) (line rest : List UInt8) :
    splitLines line (body ++ 10 :: rest) =
      (line.reverse ++ body ++ [10]) :: splitLines [] rest := by
  induction body generalizing line with
  | nil => simp [splitLines]
  | cons byte body ih =>
    rw [List.mem_cons, not_or] at hbody
    rw [List.cons_append, splitLines, if_neg (Ne.symm hbody.1), ih hbody.2]
    simp

theorem splitLines_last {body : List UInt8} (hbody : 10 ∉ body) (line : List UInt8) :
    splitLines line body = if line.reverse ++ body = [] then [] else [line.reverse ++ body] := by
  induction body generalizing line with
  | nil => cases line <;> simp [splitLines]
  | cons byte body ih =>
    rw [List.mem_cons, not_or] at hbody
    rw [splitLines, if_neg (Ne.symm hbody.1), ih hbody.2]
    simp

/-- The lines of a text, and behind them those of further bytes, if there is a line feed between or
nothing follows. -/
theorem map_splitLines (text : List Char) (rest : List UInt8)
    (hends : (∀ c ∈ text.getLast?, c = '\n') ∨ rest = []) :
    ((splitLines [] (Text.encode text ++ rest)).map fun line =>
        String.fromUTF8? ⟨line.toArray⟩) =
      (text.splitBy fun c _ => c != '\n').map (fun line => some (String.ofList line)) ++
        (splitLines [] rest).map fun line => String.fromUTF8? ⟨line.toArray⟩ := by
  induction text using Text.lines_induction with
  | last body hbody =>
    by_cases hnil : body = []
    · simp [hnil, Text.encode]
    · obtain rfl : rest = [] := by
        refine hends.resolve_left fun hlast => hbody ?_
        have hmem := List.getLast_mem hnil
        rwa [hlast _ (List.getLast_mem_getLast? hnil)] at hmem
      have hencode : Text.encode body ≠ [] := fun h => hnil (Text.encode_eq_nil_iff.1 h)
      rw [List.append_nil, splitLines_last (Text.not_mem_encode hbody), Text.splitBy_last hbody,
        if_neg hnil, List.reverse_nil, List.nil_append, if_neg hencode]
      simp [Text.fromUTF8?_encode, splitLines]
  | line body text hbody ih =>
    have hends' : (∀ c ∈ text.getLast?, c = '\n') ∨ rest = [] := by
      refine hends.imp_left fun hlast c hc => hlast c ?_
      rw [List.getLast?_append, List.getLast?_cons, Option.mem_def.1 hc]
      rfl
    have hbytes : Text.encode (body ++ '\n' :: text) ++ rest =
        Text.encode body ++ 10 :: (Text.encode text ++ rest) := by
      rw [← List.singleton_append, Text.encode_append, Text.encode_append, Text.encode_lineFeed]
      simp
    have hline : Text.encode body ++ [10] = Text.encode (body ++ ['\n']) := by
      rw [Text.encode_append, Text.encode_lineFeed]
    rw [hbytes, splitLines_line (Text.not_mem_encode hbody), Text.splitBy_line hbody,
      List.map_cons, ih hends', List.reverse_nil, List.nil_append, hline, Text.fromUTF8?_encode]
    rfl

theorem inputLines_toUTF8 (text : String) :
    inputLines text.toUTF8 = (Text.lines text).map some := by
  have hlines := map_splitLines text.toList [] (Or.inr rfl)
  rw [List.append_nil, ← Text.toList_toUTF8] at hlines
  rw [inputLines, hlines, Text.lines, List.map_map]
  exact List.append_nil _

theorem inputLines_append {text : String} (hends : text.toList.getLast? = some '\n')
    (rest : ByteArray) :
    inputLines (text.toUTF8 ++ rest) = (Text.lines text).map some ++ inputLines rest := by
  have hlast : ∀ c ∈ text.toList.getLast?, c = '\n' := by
    intro c hc
    rw [hends] at hc
    exact (Option.some.inj hc).symm
  have hlines := map_splitLines text.toList rest.toList (Or.inl hlast)
  rw [← Text.toList_toUTF8, ← Text.toList_append] at hlines
  rw [inputLines, hlines, Text.lines, List.map_map]
  rfl

end TokenGrammar
