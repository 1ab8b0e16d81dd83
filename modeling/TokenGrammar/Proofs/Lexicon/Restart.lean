import TokenGrammar.Proofs.Lexicon.Tiling

/-!
# Scanning from a token boundary

A scan carries nothing from one token to the next but the offset: the rest of a source behind a
token is matched as a text of its own. So a scan that starts there finds the tokens that a scan of
the whole source finds behind that offset, with spans that count from the new start, and it stops
for the same reason.
-/

namespace TokenGrammar

/-- The same bytes, counted from an offset on. -/
def Span.back (offset : Nat) (span : Span) : Span :=
  ofOffsets (span.start.toNat - offset) (span.stop.toNat - offset)

def Token.back (offset : Nat) (token : Token) : Token :=
  { token with span := token.span.back offset }

/-- The same error, with its offset counted from another one on. -/
def ScanError.back (start : Nat) : ScanError → ScanError
  | noMatch offset remaining => noMatch (offset - start) remaining
  | zeroWidthMatch tag offset => zeroWidthMatch tag (offset - start)
  | sourceTooLarge size => sourceTooLarge size

namespace Lexicon

theorem back_ofOffsets (offset : Nat) {start stop : Nat} (hle : start ≤ stop)
    (hstop : stop ≤ sourceLimit) :
    (Span.ofOffsets start stop).back offset = .ofOffsets (start - offset) (stop - offset) := by
  unfold sourceLimit at hstop
  have hstart : (Word.clamp start).toNat = start := Word.toNat_clamp_of_le (by omega)
  have hend : (Word.clamp stop).toNat = stop := Word.toNat_clamp_of_le (by omega)
  simp only [Span.back, Span.ofOffsets, hstart, hend]

/-- The tokens that a scan finds before it stops. -/
def emitted (lexicon : Lexicon) (source : String) : List Token :=
  (lexicon.scanFrom source.toList.length 0 source.toList).tokens

/-- An offset where a scan looks for a token: the start of the source, or the end of a token that it
found. A source that is too large is not looked at. -/
def Visits (lexicon : Lexicon) (source : String) (offset : Nat) : Prop :=
  source.utf8ByteSize ≤ sourceLimit ∧
    (offset = 0 ∨ ∃ token ∈ lexicon.emitted source, token.span.stop.toNat = offset)

section Cuts

variable {lexicon : Lexicon} {offset stop start : Nat} {text final : List Char}
  {tokens left right : List Token}

/-- Between any two tokens there is a boundary, where the rest of the text is cut anew. -/
theorem Cuts.split (h : lexicon.Cuts offset text (left ++ right) stop final) :
    ∃ middle rest, lexicon.Cuts offset text left middle rest ∧
      lexicon.Cuts middle rest right stop final := by
  induction left generalizing offset text with
  | nil => exact ⟨offset, text, .done offset text, h⟩
  | cons token left ih =>
    cases h with
    | token hwins hnonempty hcuts =>
      obtain ⟨middle, rest, hleft, hright⟩ := ih hcuts
      exact ⟨middle, rest, .token hwins hnonempty hleft, hright⟩

/-- Offsets are only counted, so a text is cut in the same way wherever counting starts. -/
theorem Cuts.back (h : lexicon.Cuts offset text tokens stop final) (hstart : start ≤ offset)
    (hstop : stop ≤ sourceLimit) :
    lexicon.Cuts (offset - start) text (tokens.map (Token.back start)) (stop - start) final := by
  induction h with
  | done => exact .done _ _
  | @token offset stop id tag taken rest final tokens hwins hnonempty hcuts ih =>
    have hle := hcuts.le
    have hnext : offset + Text.byteSize taken - start = offset - start + Text.byteSize taken :=
      Nat.sub_add_comm hstart
    have hspan := back_ofOffsets start (Nat.le_add_right offset (Text.byteSize taken))
      (Nat.le_trans hle hstop)
    have hrest := ih (by omega) hstop
    rw [hnext] at hspan hrest
    rw [List.map_cons, Token.back, hspan]
    exact .token hwins hnonempty hrest

theorem StopsFor.back {error? : Option ScanError} (h : lexicon.StopsFor stop final error?)
    (start : Nat) : lexicon.StopsFor (stop - start) final (error?.map (ScanError.back start)) := by
  cases error? with
  | none => exact h
  | some error =>
    cases error with
    | noMatch offset remaining =>
      obtain ⟨hnonempty, rfl, hremaining, hnone⟩ := h
      exact ⟨hnonempty, rfl, hremaining, hnone⟩
    | zeroWidthMatch tag offset =>
      obtain ⟨hnonempty, rfl, hwins⟩ := h
      exact ⟨hnonempty, rfl, hwins⟩
    | sourceTooLarge size => exact h.elim

/-- The tokens behind a boundary are those that start there or later. -/
theorem filter_of_cuts {middle : Nat} {rest : List Char}
    (hleft : lexicon.Cuts offset text left middle rest)
    (hright : lexicon.Cuts middle rest right stop final) (hstop : stop ≤ sourceLimit) :
    (left ++ right).filter (fun token => middle ≤ token.span.start.toNat) = right := by
  have hnone : left.filter (fun token => middle ≤ token.span.start.toNat) = [] := by
    rw [List.filter_eq_nil_iff]
    intro token hmem
    have hbounds := hleft.bounds (Nat.le_trans hright.le hstop) token hmem
    simp only [decide_eq_true_eq]
    omega
  have hall : right.filter (fun token => middle ≤ token.span.start.toNat) = right := by
    rw [List.filter_eq_self]
    intro token hmem
    exact decide_eq_true (hright.bounds hstop token hmem).1
  rw [List.filter_append, hnone, hall, List.nil_append]

end Cuts

/-- At every offset that a scan visits, it goes on as the cuts of the rest of the source. -/
theorem Visits.exists_cuts {lexicon : Lexicon} {source : String} {offset stop : Nat}
    {final : List Char} (hvisits : lexicon.Visits source offset)
    (hcuts : lexicon.Cuts 0 source.toList (lexicon.emitted source) stop final) :
    ∃ left right rest, lexicon.emitted source = left ++ right ∧
      lexicon.Cuts 0 source.toList left offset rest ∧
        lexicon.Cuts offset rest right stop final := by
  obtain ⟨hsize, rfl | ⟨token, hmem, rfl⟩⟩ := hvisits
  · exact ⟨[], lexicon.emitted source, source.toList, rfl, .done 0 _, hcuts⟩
  · obtain ⟨before, after, hemitted⟩ := List.append_of_mem hmem
    rw [← List.singleton_append, ← List.append_assoc] at hemitted
    rw [hemitted] at hcuts
    obtain ⟨middle, rest, hleft, hright⟩ := hcuts.split
    have hlast := (hleft.tiles hsize).last
    rw [List.getLast?_concat, Option.elim_some] at hlast
    rw [hlast]
    exact ⟨before ++ [token], after, rest, hemitted, hleft, hright⟩

/-- **Scanning restarts at every token boundary.** From an offset that a scan visits, the rest of
the source is a text whose scan finds the tokens that start there or later, moved back by the
offset. It comes to the end if the scan of the source does, and otherwise has the same error, moved
back as well. -/
theorem scan_restarts (lexicon : Lexicon) (source : String) (offset : Nat)
    (hvisits : lexicon.Visits source offset) :
    ∃ rest : String,
      Text.slice? source.toList offset source.utf8ByteSize = some rest.toList ∧
      lexicon.emitted rest = ((lexicon.emitted source).filter
        (fun token => offset ≤ token.span.start.toNat)).map (Token.back offset) ∧
      match lexicon.scan source with
      | .ok sequence =>
        lexicon.scan rest = .ok ⟨(sequence.tokens.filter
          (fun token => offset ≤ token.span.start.toNat)).map (Token.back offset),
            source.utf8ByteSize - offset⟩
      | .error (.noMatch stop remaining) =>
        offset ≤ stop ∧ lexicon.scan rest = .error (.noMatch (stop - offset) remaining)
      | .error (.zeroWidthMatch tag stop) =>
        offset ≤ stop ∧ lexicon.scan rest = .error (.zeroWidthMatch tag (stop - offset))
      | .error (.sourceTooLarge _) => False := by
  obtain ⟨stop, final, hcuts, hstops⟩ := lexicon.scanFrom_cuts (Nat.le_refl source.toList.length) 0
  obtain ⟨left, right, rest, hemitted, hleft, hright⟩ := hvisits.exists_cuts hcuts
  obtain ⟨hslice, hbytes⟩ := hleft.slice_final
  have hsize : source.utf8ByteSize ≤ sourceLimit := hvisits.1
  have hstop : stop ≤ sourceLimit := by
    have := hcuts.slice_final.2
    omega
  have hfilter := filter_of_cuts hleft hright hstop
  have hrest : (String.ofList rest).utf8ByteSize = source.utf8ByteSize - offset := by
    rw [Text.utf8ByteSize_ofList]
    omega
  have hback := hright.back (Nat.le_refl offset) hstop
  rw [Nat.sub_self] at hback
  generalize herror : (lexicon.scanFrom source.toList.length 0 source.toList).error? = error?
    at hstops
  have hscan : lexicon.scanFrom (String.ofList rest).toList.length 0 (String.ofList rest).toList =
      ⟨right.map (Token.back offset), error?.map (ScanError.back offset)⟩ := by
    rw [String.toList_ofList]
    exact scanFrom_of_cuts hback (hstops.back offset) (Nat.le_refl _)
  refine ⟨String.ofList rest, by rw [String.toList_ofList, hslice], ?_, ?_⟩
  · rw [hemitted, hfilter, emitted, hscan]
  · have hwhole : lexicon.scanFrom source.toList.length 0 source.toList =
        ⟨left ++ right, error?⟩ := by
      rw [← hemitted, ← herror]
      rfl
    rw [scan_eq_result lexicon hsize, hwhole, scan_eq_result lexicon (by omega), hscan, hrest]
    cases error? with
    | none =>
      simp only [Scan.result, Option.map_none, Except.map, List.filter_toArray, hfilter,
        List.map_toArray]
    | some error =>
      cases error with
      | noMatch position remaining =>
        obtain ⟨-, rfl, -⟩ := hstops
        exact ⟨hright.le, rfl⟩
      | zeroWidthMatch tag position =>
        obtain ⟨-, rfl, -⟩ := hstops
        exact ⟨hright.le, rfl⟩
      | sourceTooLarge size => exact hstops

/-- A letter, then a mark that only matches where a text starts, then a digit that nothing matches.
The mark starts behind the letter, so the rest is scanned as before. -/
theorem scan_restarts_before_mark :
    ∃ mark letter first lexicon, empty.defineText "mark" "^é" = .ok (mark, first) ∧
      first.defineText "letter" "[a-z]" = .ok (letter, lexicon) ∧
      lexicon.Visits "aé1" 1 ∧ lexicon.scan "aé1" = .error (.noMatch 3 "1") ∧
      lexicon.emitted "é1" = [⟨0, "mark", "é", .ofOffsets 0 2⟩] ∧
      lexicon.scan "é1" = .error (.noMatch 2 "1") := by
  obtain ⟨mark, letter, first, lexicon, hmark, hletter, hemitted, hscan⟩ :
      ∃ mark letter first lexicon, empty.defineText "mark" "^é" = .ok (mark, first) ∧
        first.defineText "letter" "[a-z]" = .ok (letter, lexicon) ∧
        lexicon.emitted "aé1" =
          [⟨1, "letter", "a", .ofOffsets 0 1⟩, ⟨0, "mark", "é", .ofOffsets 1 3⟩] ∧
        lexicon.scan "aé1" = .error (.noMatch 3 "1") := ⟨_, _, _, _, rfl, rfl, rfl, rfl⟩
  have hvisits : lexicon.Visits "aé1" 1 := by
    refine ⟨by decide +kernel, Or.inr ⟨⟨1, "letter", "a", .ofOffsets 0 1⟩, ?_, rfl⟩⟩
    rw [hemitted]
    exact List.mem_cons_self
  obtain ⟨rest, hslice, hrest, hrestarts⟩ := scan_restarts lexicon "aé1" 1 hvisits
  obtain rfl : "é1" = rest := by
    have hpart : Text.slice? "aé1".toList 1 "aé1".utf8ByteSize = some "é1".toList := by
      decide +kernel
    exact String.toList_inj.1 (Option.some.inj (hpart.symm.trans hslice))
  rw [hscan] at hrestarts
  rw [hemitted] at hrest
  exact ⟨mark, letter, first, lexicon, hmark, hletter, hvisits, hscan, hrest, hrestarts.2⟩

end Lexicon

end TokenGrammar
