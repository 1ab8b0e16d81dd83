import TokenGrammar.Lexicon.Scan

/-!
# Scanning tiles the source

The tokens of a source lie side by side from its start on, none of them is empty, and each of them
is what the first matching definition takes at its offset. Scanning goes on like this up to the end
of the source or up to an offset where there is no such token.
-/

namespace TokenGrammar

/-- The part of a text between two byte offsets. -/
def Text.slice? (text : List Char) (start stop : Nat) : Option (List Char) := do
  let (before, _) ← splitAtByte? stop text
  let (_, part) ← splitAtByte? start before
  return part

theorem Text.byteSize_pos {text : List Char} (h : text ≠ []) : 0 < byteSize text := by
  obtain ⟨c, rest, rfl⟩ := List.exists_cons_of_ne_nil h
  have hpos := c.utf8Size_pos
  rw [byteSize_cons]
  omega

theorem Text.slice?_append (before part after : List Char) :
    slice? (before ++ part ++ after) (byteSize before) (byteSize before + byteSize part) =
      some part := by
  rw [slice?, ← byteSize_append, splitAtByte?_byteSize]
  simp only [Option.bind_eq_bind, Option.bind_some, splitAtByte?_byteSize]
  rfl

namespace Lexicon

/-! ### The first definition that matches -/

/-- What the first definition that matches a text gives: its id, its tag, and how many bytes it
takes. -/
inductive Wins (lexicon : Lexicon) (text : List Char) : Probe → Prop where
  | first {index length : Nat} {definition : Definition}
      (hdefinition : lexicon.definitions[index]? = some definition)
      (hmatch : definition.match? text = some length)
      (hearlier : ∀ earlier definition', earlier < index →
        lexicon.definitions[earlier]? = some definition' → definition'.match? text = none) :
      Wins lexicon text ⟨.ofIndex index, definition.tag, length⟩

theorem probeFrom_eq_none_iff {text : List Char} {start : Nat} {definitions : List Definition} :
    probeFrom text start definitions = none ↔
      ∀ definition ∈ definitions, definition.match? text = none := by
  induction definitions generalizing start with
  | nil => simp [probeFrom]
  | cons definition rest ih =>
    rw [probeFrom, List.forall_mem_cons]
    cases hmatch : definition.match? text with
    | some length => simp
    | none => simp [ih]

theorem exists_of_probeFrom {text : List Char} {start : Nat} {definitions : List Definition}
    {probe : Probe} (h : probeFrom text start definitions = some probe) :
    ∃ index definition length, definitions[index]? = some definition ∧
      definition.match? text = some length ∧
      (∀ earlier definition', earlier < index → definitions[earlier]? = some definition' →
        definition'.match? text = none) ∧
      probe = ⟨.ofIndex (start + index), definition.tag, length⟩ := by
  induction definitions generalizing start with
  | nil => cases h
  | cons definition rest ih =>
    rw [probeFrom] at h
    split at h
    · next length hmatch =>
      cases h
      refine ⟨0, definition, length, rfl, hmatch, fun earlier _ hlt => ?_, rfl⟩
      exact absurd hlt earlier.not_lt_zero
    · next hnone =>
      obtain ⟨index, winner, length, hwinner, hmatch, hearlier, hprobe⟩ := ih h
      refine ⟨index + 1, winner, length, hwinner, hmatch, fun earlier other hlt hother => ?_, ?_⟩
      · cases earlier with
        | zero =>
          cases hother
          exact hnone
        | succ earlier => exact hearlier earlier other (Nat.lt_of_succ_lt_succ hlt) hother
      · rw [hprobe, Nat.add_assoc, Nat.add_comm 1]

theorem probeFrom_of_first {text : List Char} {definitions : List Definition} {index length : Nat}
    {definition : Definition} (hdefinition : definitions[index]? = some definition)
    (hmatch : definition.match? text = some length)
    (hearlier : ∀ earlier definition', earlier < index → definitions[earlier]? = some definition' →
      definition'.match? text = none) (start : Nat) :
    probeFrom text start definitions =
      some ⟨.ofIndex (start + index), definition.tag, length⟩ := by
  induction definitions generalizing start index with
  | nil => cases hdefinition
  | cons first rest ih =>
    rw [probeFrom]
    cases index with
    | zero =>
      obtain rfl : first = definition := Option.some.inj hdefinition
      simp only [hmatch, Nat.add_zero]
    | succ index =>
      have hrest : ∀ earlier definition', earlier < index → rest[earlier]? = some definition' →
          definition'.match? text = none := fun earlier definition' hlt =>
        hearlier (earlier + 1) definition' (Nat.succ_lt_succ hlt)
      simp only [hearlier 0 first (Nat.succ_pos index) rfl, ih hdefinition hrest]
      rw [Nat.add_right_comm, Nat.add_assoc]

theorem wins_of_probe {lexicon : Lexicon} {text : List Char} {probe : Probe}
    (h : lexicon.probe text = some probe) : lexicon.Wins text probe := by
  obtain ⟨index, definition, length, hdefinition, hmatch, hearlier, rfl⟩ := exists_of_probeFrom h
  rw [Nat.zero_add]
  exact .first hdefinition hmatch hearlier

theorem probe_of_wins {lexicon : Lexicon} {text : List Char} {probe : Probe}
    (h : lexicon.Wins text probe) : lexicon.probe text = some probe := by
  cases h with
  | @first index _ _ hdefinition hmatch hearlier =>
    rw [Lexicon.probe, probeFrom_of_first hdefinition hmatch hearlier, Nat.zero_add]

/-! ### Scanning step by step -/

/-- From a byte offset on, a text is cut into tokens up to the offset `stop`, where `final` is
left. -/
inductive Cuts (lexicon : Lexicon) : Nat → List Char → List Token → Nat → List Char → Prop where
  | done (offset : Nat) (text : List Char) : Cuts lexicon offset text [] offset text
  | token {offset stop : Nat} {id : Serial} {tag : String} {taken rest final : List Char}
      {tokens : List Token}
      (hwins : lexicon.Wins (taken ++ rest) ⟨id, tag, Text.byteSize taken⟩) (hnonempty : taken ≠ [])
      (hcuts : Cuts lexicon (offset + Text.byteSize taken) rest tokens stop final) :
      Cuts lexicon offset (taken ++ rest)
        (⟨id, tag, String.ofList taken, .ofOffsets offset (offset + Text.byteSize taken)⟩ :: tokens)
        stop final

/-- Why scanning stops at an offset where `final` is left. -/
def StopsFor (lexicon : Lexicon) (stop : Nat) (final : List Char) : Option ScanError → Prop
  | none => final = []
  | some (.noMatch offset remaining) =>
    final ≠ [] ∧ offset = stop ∧ remaining = String.ofList final ∧
      ∀ definition ∈ lexicon.definitions, definition.match? final = none
  | some (.zeroWidthMatch tag offset) =>
    final ≠ [] ∧ offset = stop ∧ ∃ id, lexicon.Wins final ⟨id, tag, 0⟩
  | some (.sourceTooLarge _) => False

section Round

variable {lexicon : Lexicon} {text : List Char} (fuel offset : Nat)

theorem scanFrom_nil (lexicon : Lexicon) : lexicon.scanFrom fuel offset [] = ⟨[], none⟩ := by
  cases fuel <;> rfl

theorem scanFrom_of_noMatch (hnonempty : text ≠ [])
    (hnone : ∀ definition ∈ lexicon.definitions, definition.match? text = none) :
    lexicon.scanFrom (fuel + 1) offset text =
      ⟨[], some (.noMatch offset (String.ofList text))⟩ := by
  have hprobe : lexicon.probe text = none := probeFrom_eq_none_iff.2 hnone
  rw [scanFrom, if_neg (by simpa using hnonempty)]
  split
  · rfl
  · next probe hsome => cases hprobe.symm.trans hsome

theorem scanFrom_of_zeroWidth {id : Serial} {tag : String} (hnonempty : text ≠ [])
    (hwins : lexicon.Wins text ⟨id, tag, 0⟩) :
    lexicon.scanFrom (fuel + 1) offset text = ⟨[], some (.zeroWidthMatch tag offset)⟩ := by
  rw [scanFrom, if_neg (by simpa using hnonempty)]
  split
  · next hnone => cases hnone.symm.trans (probe_of_wins hwins)
  · next probe hsome =>
    obtain rfl : probe = ⟨id, tag, 0⟩ := Option.some.inj (hsome.symm.trans (probe_of_wins hwins))
    rfl

theorem scanFrom_of_wins {id : Serial} {tag : String} {taken rest : List Char}
    (hnonempty : taken ≠ [])
    (hwins : lexicon.Wins (taken ++ rest) ⟨id, tag, Text.byteSize taken⟩) :
    lexicon.scanFrom (fuel + 1) offset (taken ++ rest) =
      (lexicon.scanFrom fuel (offset + Text.byteSize taken) rest).cons
        ⟨id, tag, String.ofList taken, .ofOffsets offset (offset + Text.byteSize taken)⟩ := by
  rw [scanFrom, if_neg (by simp [hnonempty])]
  split
  · next hnone => cases hnone.symm.trans (probe_of_wins hwins)
  · next probe hsome =>
    obtain rfl : probe = ⟨id, tag, Text.byteSize taken⟩ :=
      Option.some.inj (hsome.symm.trans (probe_of_wins hwins))
    rw [if_neg (Nat.ne_of_gt (Text.byteSize_pos hnonempty))]
    have hcut : ∀ h, (Text.splitAtByte? (Text.byteSize taken) (taken ++ rest)).get h =
        (taken, rest) := fun h =>
      Option.get_of_eq_some h (Text.splitAtByte?_byteSize taken rest)
    simp only [hcut]

end Round

/-- A match that is not empty takes some characters off the text. -/
theorem Wins.exists_taken {lexicon : Lexicon} {text : List Char} {probe : Probe}
    (h : lexicon.Wins text probe) (hlength : probe.length ≠ 0) :
    ∃ taken rest, taken ++ rest = text ∧ taken ≠ [] ∧ probe.length = Text.byteSize taken := by
  obtain ⟨taken, rest, happend, hbytes⟩ := isBoundary_of_probe (probe_of_wins h)
  refine ⟨taken, rest, happend, ?_, hbytes.symm⟩
  rintro rfl
  exact hlength hbytes.symm

theorem scanFrom_cuts (lexicon : Lexicon) {fuel : Nat} {text : List Char}
    (hfuel : text.length ≤ fuel) (offset : Nat) :
    ∃ stop final, lexicon.Cuts offset text (lexicon.scanFrom fuel offset text).tokens stop final ∧
      lexicon.StopsFor stop final (lexicon.scanFrom fuel offset text).error? := by
  induction fuel generalizing offset text with
  | zero =>
    obtain rfl : text = [] := List.length_eq_zero_iff.1 (Nat.le_zero.1 hfuel)
    exact ⟨offset, [], .done offset [], rfl⟩
  | succ fuel ih =>
    by_cases hempty : text = []
    · subst hempty
      exact ⟨offset, [], .done offset [], rfl⟩
    · cases hprobe : lexicon.probe text with
      | none =>
        have hnone := probeFrom_eq_none_iff.1 hprobe
        rw [scanFrom_of_noMatch fuel offset hempty hnone]
        exact ⟨offset, text, .done offset text, hempty, rfl, rfl, hnone⟩
      | some probe =>
        have hwins := wins_of_probe hprobe
        obtain ⟨id, tag, length⟩ := probe
        by_cases hzero : length = 0
        · subst hzero
          rw [scanFrom_of_zeroWidth fuel offset hempty hwins]
          exact ⟨offset, text, .done offset text, hempty, rfl, id, hwins⟩
        · obtain ⟨taken, rest, rfl, hnonempty, hlength⟩ := hwins.exists_taken hzero
          obtain rfl : length = Text.byteSize taken := hlength
          have hpos : 0 < taken.length := List.length_pos_iff.2 hnonempty
          rw [List.length_append] at hfuel
          rw [scanFrom_of_wins fuel offset hnonempty hwins]
          obtain ⟨stop, final, hcuts, hstops⟩ :=
            ih (by omega : rest.length ≤ fuel) (offset + Text.byteSize taken)
          exact ⟨stop, final, .token hwins hnonempty hcuts, hstops⟩

theorem scanFrom_of_stopsFor {lexicon : Lexicon} {stop fuel : Nat} {final : List Char}
    {error? : Option ScanError} (hstops : lexicon.StopsFor stop final error?)
    (hfuel : final.length ≤ fuel) : lexicon.scanFrom fuel stop final = ⟨[], error?⟩ := by
  cases error? with
  | none =>
    obtain rfl : final = [] := hstops
    exact scanFrom_nil fuel stop lexicon
  | some error =>
    have hnonempty : final ≠ [] := by
      cases error with
      | noMatch | zeroWidthMatch => exact hstops.1
      | sourceTooLarge => exact hstops.elim
    have hpos : 0 < final.length := List.length_pos_iff.2 hnonempty
    obtain ⟨fuel, rfl⟩ : ∃ n, fuel = n + 1 := ⟨fuel - 1, by omega⟩
    cases error with
    | noMatch offset remaining =>
      obtain ⟨-, rfl, rfl, hnone⟩ := hstops
      exact scanFrom_of_noMatch fuel offset hnonempty hnone
    | zeroWidthMatch tag offset =>
      obtain ⟨-, rfl, id, hwins⟩ := hstops
      exact scanFrom_of_zeroWidth fuel offset hnonempty hwins
    | sourceTooLarge => exact hstops.elim

/-- Only one list of tokens cuts a text up to where scanning stops, and scanning finds it. -/
theorem scanFrom_of_cuts {lexicon : Lexicon} {offset stop fuel : Nat} {text final : List Char}
    {tokens : List Token} {error? : Option ScanError}
    (hcuts : lexicon.Cuts offset text tokens stop final)
    (hstops : lexicon.StopsFor stop final error?) (hfuel : text.length ≤ fuel) :
    lexicon.scanFrom fuel offset text = ⟨tokens, error?⟩ := by
  induction hcuts generalizing fuel with
  | done offset text => exact scanFrom_of_stopsFor hstops hfuel
  | @token offset stop id tag taken rest final tokens hwins hnonempty _ ih =>
    have hpos : 0 < taken.length := List.length_pos_iff.2 hnonempty
    rw [List.length_append] at hfuel
    obtain ⟨fuel, rfl⟩ : ∃ n, fuel = n + 1 := ⟨fuel - 1, by omega⟩
    rw [scanFrom_of_wins fuel offset hnonempty hwins, ih hstops (by omega)]
    rfl

/-- The tokens of a scan that came to the end, or why it did not. -/
def Scan.result (scan : Scan) : Except ScanError (List Token) :=
  match scan.error? with
  | some error => .error error
  | none => .ok scan.tokens

theorem scan_eq_result (lexicon : Lexicon) {source : String}
    (hsize : source.utf8ByteSize ≤ sourceLimit) :
    lexicon.scan source = (lexicon.scanFrom source.toList.length 0 source.toList).result.map
      fun tokens => ⟨tokens.toArray, source.utf8ByteSize⟩ := by
  rw [scan, if_neg (Nat.not_lt.2 hsize)]
  simp only [Scan.result]
  cases (lexicon.scanFrom source.toList.length 0 source.toList).error? <;> rfl

theorem scan_of_cuts {lexicon : Lexicon} {source : String} {stop : Nat} {tokens : List Token}
    (hsize : source.utf8ByteSize ≤ sourceLimit)
    (hcuts : lexicon.Cuts 0 source.toList tokens stop []) :
    lexicon.scan source = .ok ⟨tokens.toArray, source.utf8ByteSize⟩ := by
  have hstops : lexicon.StopsFor stop [] none := rfl
  rw [scan_eq_result lexicon hsize, scanFrom_of_cuts hcuts hstops (Nat.le_refl _)]
  rfl

/-- Before `rest` the text is cut into the tokens, however the rest is cut. -/
def Chunk (lexicon : Lexicon) (offset : Nat) (text rest : List Char) (tokens : List Token) : Prop :=
  ∀ more stop final, lexicon.Cuts (offset + Text.byteSize text) rest more stop final →
    lexicon.Cuts offset (text ++ rest) (tokens ++ more) stop final

theorem Chunk.token {lexicon : Lexicon} {offset : Nat} {id : Serial} {tag : String}
    {taken rest : List Char}
    (hwins : lexicon.Wins (taken ++ rest) ⟨id, tag, Text.byteSize taken⟩) (hnonempty : taken ≠ []) :
    lexicon.Chunk offset taken rest
      [⟨id, tag, String.ofList taken, .ofOffsets offset (offset + Text.byteSize taken)⟩] :=
  fun _ _ _ hcuts => .token hwins hnonempty hcuts

theorem Chunk.append {lexicon : Lexicon} {offset : Nat} {left right rest : List Char}
    {tokens tokens' : List Token} (hleft : lexicon.Chunk offset left (right ++ rest) tokens)
    (hright : lexicon.Chunk (offset + Text.byteSize left) right rest tokens') :
    lexicon.Chunk offset (left ++ right) rest (tokens ++ tokens') := by
  intro more stop final hcuts
  rw [Text.byteSize_append, ← Nat.add_assoc] at hcuts
  rw [List.append_assoc, List.append_assoc]
  exact hleft _ _ _ (hright _ _ _ hcuts)

theorem Chunk.scan {lexicon : Lexicon} {source : String} {tokens : List Token}
    (hsize : source.utf8ByteSize ≤ sourceLimit)
    (hchunk : lexicon.Chunk 0 source.toList [] tokens) :
    lexicon.scan source = .ok ⟨tokens.toArray, source.utf8ByteSize⟩ := by
  have hcuts := hchunk [] _ [] (.done _ [])
  rw [List.append_nil, List.append_nil] at hcuts
  exact scan_of_cuts hsize hcuts

/-! ### What the tokens cover -/

/-- The characters of the tokens, one after the other. -/
def covered (tokens : List Token) : List Char := tokens.flatMap (·.text.toList)

theorem covered_cons (token : Token) (tokens : List Token) :
    covered (token :: tokens) = token.text.toList ++ covered tokens :=
  List.flatMap_cons ..

theorem covered_take_succ {tokens : List Token} {index : Nat} {token : Token}
    (htoken : tokens[index]? = some token) :
    covered (tokens.take (index + 1)) = covered (tokens.take index) ++ token.text.toList := by
  rw [List.take_add_one, htoken, covered, List.flatMap_append]
  simp [covered]

section Cuts

variable {lexicon : Lexicon} {offset stop : Nat} {text final : List Char} {tokens : List Token}

theorem Cuts.covered_append (h : lexicon.Cuts offset text tokens stop final) :
    covered tokens ++ final = text ∧ stop = offset + Text.byteSize (covered tokens) := by
  induction h with
  | done => exact ⟨rfl, rfl⟩
  | token _ _ _ ih =>
    obtain ⟨happend, hstop⟩ := ih
    rw [covered_cons, String.toList_ofList, Text.byteSize_append]
    exact ⟨by rw [List.append_assoc, happend], by omega⟩

theorem Cuts.le (h : lexicon.Cuts offset text tokens stop final) : offset ≤ stop := by
  obtain ⟨-, hstop⟩ := h.covered_append
  omega

theorem Cuts.trans {more : List Token} {stop' : Nat} {final' : List Char}
    (h : lexicon.Cuts offset text tokens stop final)
    (h' : lexicon.Cuts stop final more stop' final') :
    lexicon.Cuts offset text (tokens ++ more) stop' final' := by
  induction h with
  | done => exact h'
  | token hwins hnonempty _ ih => exact .token hwins hnonempty (ih h')

/-- Tokens that were cut from a text are not empty and lie where they were cut, unless an offset is
too large for a word. -/
theorem Cuts.bounds (h : lexicon.Cuts offset text tokens stop final) (hstop : stop ≤ sourceLimit) :
    ∀ token ∈ tokens, offset ≤ token.span.start.toNat ∧
      token.span.start.toNat < token.span.stop.toNat ∧ token.span.stop.toNat ≤ stop := by
  induction h with
  | done => simp
  | @token offset stop id tag taken rest final tokens hwins hnonempty hcuts ih =>
    have hpos := Text.byteSize_pos hnonempty
    have hle := hcuts.le
    unfold sourceLimit at hstop ih
    have hstart : (Word.clamp offset).toNat = offset := Word.toNat_clamp_of_le (by omega)
    have hend : (Word.clamp (offset + Text.byteSize taken)).toNat = offset + Text.byteSize taken :=
      Word.toNat_clamp_of_le (by omega)
    refine List.forall_mem_cons.2 ⟨?_, fun token hmem => ?_⟩
    · simp only [Span.ofOffsets, hstart, hend]
      omega
    · obtain ⟨hfirst, hlast⟩ := ih hstop token hmem
      exact ⟨by omega, hlast⟩

theorem Cuts.token_at (h : lexicon.Cuts offset text tokens stop final) {index : Nat} {token : Token}
    (htoken : tokens[index]? = some token) :
    ∃ taken after, text = covered (tokens.take index) ++ taken ++ after ∧ taken ≠ [] ∧
      token.text = String.ofList taken ∧
      token.span = .ofOffsets (offset + Text.byteSize (covered (tokens.take index)))
        (offset + Text.byteSize (covered (tokens.take index)) + Text.byteSize taken) ∧
      lexicon.Wins (taken ++ after) ⟨token.id, token.tag, Text.byteSize taken⟩ := by
  induction h generalizing index with
  | done => cases htoken
  | @token offset stop id tag taken rest final tokens hwins hnonempty hcuts ih =>
    cases index with
    | zero =>
      cases htoken
      exact ⟨taken, rest, rfl, hnonempty, rfl, rfl, hwins⟩
    | succ index =>
      obtain ⟨taken', after, htext, hnonempty', htoken', hspan, hwins'⟩ := ih htoken
      rw [List.take_succ_cons, covered_cons, String.toList_ofList, Text.byteSize_append]
      refine ⟨taken', after, ?_, hnonempty', htoken', ?_, hwins'⟩
      · rw [htext]
        simp only [List.append_assoc]
      · rw [hspan]
        simp only [Nat.add_assoc]

end Cuts

theorem eq_of_scan {lexicon : Lexicon} {source : String} {sequence : TokenSequence}
    (hscan : lexicon.scan source = .ok sequence) :
    sequence = ⟨(lexicon.scanFrom source.toList.length 0 source.toList).tokens.toArray,
      source.utf8ByteSize⟩ := by
  unfold scan at hscan
  split at hscan
  · cases hscan
  · simp only at hscan
    split at hscan
    · cases hscan
    · exact (Except.ok.inj hscan).symm

/-- A scanned token has the index of its definition, if the ids of the lexicon tell its definitions
apart. -/
theorem exists_definition_of_scan {lexicon : Lexicon} (hfits : lexicon.size ≤ Word.limit)
    {source : String} {sequence : TokenSequence} {token : Token}
    (hscan : lexicon.scan source = .ok sequence) (htoken : token ∈ sequence.tokens) :
    ∃ definition after, lexicon.definitions[token.id.index]? = some definition ∧
      definition.tag = token.tag ∧
      definition.match? (token.text.toList ++ after) = some token.text.utf8ByteSize := by
  obtain ⟨stop, final, hcuts, -⟩ := lexicon.scanFrom_cuts (Nat.le_refl source.toList.length) 0
  rw [eq_of_scan hscan] at htoken
  obtain ⟨place, hplace⟩ := List.getElem?_of_mem (List.mem_toArray.1 htoken)
  obtain ⟨taken, after, -, -, htext, -, hwins⟩ := hcuts.token_at hplace
  rw [htext, String.toList_ofList, Text.utf8ByteSize_ofList]
  generalize hprobe : Probe.mk token.id token.tag (Text.byteSize taken) = probe at hwins
  obtain @⟨index, _, definition, hdefinition, hmatch, -⟩ := hwins
  obtain ⟨hid, htag, rfl⟩ := Probe.mk.inj hprobe
  obtain ⟨hlt, -⟩ := List.getElem?_eq_some_iff.1 hdefinition
  have hindex : token.id.index = index := by
    rw [hid, Serial.index_ofIndex, Nat.min_eq_left (Nat.le_trans (Nat.le_of_lt hlt) hfits)]
  exact ⟨definition, after, by rw [hindex, hdefinition], htag.symm, hmatch⟩

/-- Tokens side by side from the start of a source up to an offset, each the one that the first
matching definition takes there. Offsets are the real ones: none of them was too large for a
word. -/
structure Tiles (lexicon : Lexicon) (source : String) (tokens : List Token) (stop : Nat) :
    Prop where
  nonempty : ∀ token ∈ tokens, token.text ≠ ""
  first : ∀ token, tokens.head? = some token → token.span.start = 0
  adjacent : ∀ index left right, tokens[index]? = some left → tokens[index + 1]? = some right →
    right.span.start = left.span.stop
  last : (tokens.getLast?.elim 0 fun token => token.span.stop.toNat) = stop
  slice : ∀ token ∈ tokens,
    Text.slice? source.toList token.span.start.toNat token.span.stop.toNat = some token.text.toList
  offsets : ∀ index token, tokens[index]? = some token →
    token.span.start.toNat = Text.byteSize (covered (tokens.take index)) ∧
      token.span.stop.toNat = Text.byteSize (covered (tokens.take (index + 1)))
  size : ∀ token ∈ tokens, token.span.size = .ok (UInt32.ofNat token.text.utf8ByteSize)
  winner : ∀ token ∈ tokens, ∃ rest,
    Text.slice? source.toList token.span.start.toNat source.utf8ByteSize = some rest ∧
      lexicon.Wins rest ⟨token.id, token.tag, token.text.utf8ByteSize⟩
  covers : Text.slice? source.toList 0 stop = some (covered tokens)

section Tiles

variable {lexicon : Lexicon} {source : String} {tokens : List Token} {stop : Nat}
  {final : List Char} (hsize : source.utf8ByteSize ≤ sourceLimit)
  (hcuts : lexicon.Cuts 0 source.toList tokens stop final)

include hsize hcuts

theorem Cuts.span_at {index : Nat} {token : Token} (htoken : tokens[index]? = some token) :
    ∃ after, source.toList = covered (tokens.take index) ++ token.text.toList ++ after ∧
      token.text.toList ≠ [] ∧
      token.span.start.toNat = Text.byteSize (covered (tokens.take index)) ∧
      token.span.stop.toNat = Text.byteSize (covered (tokens.take index)) +
        Text.byteSize token.text.toList ∧
      token.span.size = .ok (UInt32.ofNat token.text.utf8ByteSize) ∧
      lexicon.Wins (token.text.toList ++ after)
        ⟨token.id, token.tag, token.text.utf8ByteSize⟩ := by
  obtain ⟨taken, after, htext, hnonempty, htaken, hspan, hwins⟩ := hcuts.token_at htoken
  have hbytes := Text.byteSize_toList source
  rw [htext, Text.byteSize_append, Text.byteSize_append] at hbytes
  unfold sourceLimit at hsize
  rw [htaken, String.toList_ofList, Text.utf8ByteSize_ofList, hspan, Nat.zero_add]
  refine ⟨after, htext, hnonempty, ?_, ?_, ?_, hwins⟩
  · exact Word.toNat_clamp_of_le (by omega)
  · exact Word.toNat_clamp_of_le (by omega)
  · rw [Span.size_ofOffsets (Nat.le_add_right _ _) (by omega), Nat.add_sub_cancel_left]

theorem Cuts.offsets_at {index : Nat} {token : Token} (htoken : tokens[index]? = some token) :
    token.span.start.toNat = Text.byteSize (covered (tokens.take index)) ∧
      token.span.stop.toNat = Text.byteSize (covered (tokens.take (index + 1))) := by
  obtain ⟨_, -, -, hstart, hstop, -⟩ := hcuts.span_at hsize htoken
  rw [covered_take_succ htoken, Text.byteSize_append]
  exact ⟨hstart, hstop⟩

theorem Cuts.tiles : lexicon.Tiles source tokens stop where
  nonempty token hmem := by
    obtain ⟨index, htoken⟩ := List.getElem?_of_mem hmem
    obtain ⟨_, -, hnonempty, -⟩ := hcuts.span_at hsize htoken
    rwa [Ne, ← String.toList_eq_nil_iff]
  first token hhead := by
    rw [List.head?_eq_getElem?] at hhead
    exact UInt32.toNat.inj (hcuts.offsets_at hsize hhead).1
  adjacent index left right hleft hright := by
    apply UInt32.toNat.inj
    rw [(hcuts.offsets_at hsize hright).1, (hcuts.offsets_at hsize hleft).2]
  last := by
    obtain ⟨-, hstop⟩ := hcuts.covered_append
    rw [hstop, Nat.zero_add]
    cases hlast : tokens.getLast? with
    | none =>
      rw [List.getLast?_eq_none_iff] at hlast
      rw [hlast]
      rfl
    | some token =>
      rw [List.getLast?_eq_getElem?] at hlast
      obtain ⟨hlt, -⟩ := List.getElem?_eq_some_iff.1 hlast
      rw [Option.elim_some, (hcuts.offsets_at hsize hlast).2, Nat.sub_add_cancel (by omega),
        List.take_length]
  slice token hmem := by
    obtain ⟨index, htoken⟩ := List.getElem?_of_mem hmem
    obtain ⟨after, hsource, -, hstart, hstop, -⟩ := hcuts.span_at hsize htoken
    rw [hstart, hstop, hsource]
    exact Text.slice?_append _ _ _
  offsets index token htoken := hcuts.offsets_at hsize htoken
  size token hmem := by
    obtain ⟨index, htoken⟩ := List.getElem?_of_mem hmem
    obtain ⟨_, -, -, -, -, hspan, -⟩ := hcuts.span_at hsize htoken
    exact hspan
  winner token hmem := by
    obtain ⟨index, htoken⟩ := List.getElem?_of_mem hmem
    obtain ⟨after, hsource, -, hstart, -, -, hwins⟩ := hcuts.span_at hsize htoken
    refine ⟨_, ?_, hwins⟩
    have hslice := Text.slice?_append (covered (tokens.take index)) (token.text.toList ++ after) []
    rwa [List.append_nil, ← Text.byteSize_append, ← List.append_assoc, ← hsource,
      Text.byteSize_toList, ← hstart] at hslice
  covers := by
    obtain ⟨hsource, hstop⟩ := hcuts.covered_append
    have hslice := Text.slice?_append [] (covered tokens) final
    rw [hstop, ← hsource]
    exact hslice

omit hsize in
theorem Cuts.slice_final : Text.slice? source.toList stop source.utf8ByteSize = some final ∧
    source.utf8ByteSize = stop + Text.byteSize final := by
  obtain ⟨hsource, hstop⟩ := hcuts.covered_append
  rw [Nat.zero_add] at hstop
  have hslice := Text.slice?_append (covered tokens) final []
  rw [List.append_nil, ← Text.byteSize_append, hsource, Text.byteSize_toList] at hslice
  rw [← Text.byteSize_toList, ← hsource, Text.byteSize_append, hstop] at *
  exact ⟨hslice, rfl⟩

theorem Cuts.offsetOf (hfinal : final = []) (index : Nat) :
    (⟨tokens.toArray, source.utf8ByteSize⟩ : TokenSequence).offsetOf index =
      Text.byteSize (covered (tokens.take index)) := by
  rw [TokenSequence.offsetOf, TokenSequence.get?, List.getElem?_toArray]
  cases htoken : tokens[index]? with
  | some token => exact (hcuts.offsets_at hsize htoken).1
  | none =>
    obtain ⟨hsource, -⟩ := hcuts.covered_append
    rw [hfinal, List.append_nil] at hsource
    rw [List.take_of_length_le (List.getElem?_eq_none_iff.1 htoken), hsource, Text.byteSize_toList]

end Tiles

/-- A scanned token stands in the source where its span starts. -/
theorem exists_around_of_scan {lexicon : Lexicon} {source : String} {sequence : TokenSequence}
    {token : Token} (hscan : lexicon.scan source = .ok sequence)
    (htoken : token ∈ sequence.tokens) :
    ∃ before rest, before ++ (token.text.toList ++ rest) = source.toList ∧
      Text.byteSize before = token.span.start.toNat ∧ token.text ≠ "" ∧
      lexicon.Wins (token.text.toList ++ rest)
        ⟨token.id, token.tag, token.text.utf8ByteSize⟩ := by
  have hsize : source.utf8ByteSize ≤ sourceLimit := by
    apply Nat.le_of_not_lt
    intro hlarge
    rw [scan, if_pos hlarge] at hscan
    cases hscan
  obtain ⟨stop, final, hcuts, -⟩ := lexicon.scanFrom_cuts (Nat.le_refl source.toList.length) 0
  rw [eq_of_scan hscan] at htoken
  obtain ⟨index, hindex⟩ := List.getElem?_of_mem (List.mem_toArray.1 htoken)
  obtain ⟨rest, hsource, hnonempty, hstart, -, -, hwins⟩ := hcuts.span_at hsize hindex
  rw [List.append_assoc] at hsource
  exact ⟨_, rest, hsource.symm, hstart.symm, by simpa using hnonempty, hwins⟩

/-- **Scanning is the priority scan.** For a source that is not too large, the tokens found tile all
of it, or all before an offset inside it where no definition matches or the first that does takes
nothing. -/
theorem scan_tiles (lexicon : Lexicon) (source : String)
    (hsize : source.utf8ByteSize ≤ sourceLimit) :
    let emitted := (lexicon.scanFrom source.toList.length 0 source.toList).tokens
    match lexicon.scan source with
    | .ok sequence =>
      sequence.tokens.toList = emitted ∧ lexicon.Tiles source emitted source.utf8ByteSize ∧
        covered emitted = source.toList ∧
        ∀ index, sequence.offsetOf index = Text.byteSize (covered (emitted.take index))
    | .error (.noMatch offset remaining) =>
      lexicon.Tiles source emitted offset ∧ offset < source.utf8ByteSize ∧
        Text.slice? source.toList offset source.utf8ByteSize = some remaining.toList ∧
        ∀ definition ∈ lexicon.definitions, definition.match? remaining.toList = none
    | .error (.zeroWidthMatch tag offset) =>
      lexicon.Tiles source emitted offset ∧ offset < source.utf8ByteSize ∧
        ∃ rest id, Text.slice? source.toList offset source.utf8ByteSize = some rest ∧
          lexicon.Wins rest ⟨id, tag, 0⟩
    | .error (.sourceTooLarge _) => False := by
  intro emitted
  obtain ⟨stop, final, hcuts, hstops⟩ := lexicon.scanFrom_cuts (Nat.le_refl source.toList.length) 0
  have htiles : lexicon.Tiles source emitted stop := hcuts.tiles hsize
  obtain ⟨hslice, hbytes⟩ := hcuts.slice_final
  have hlt : final ≠ [] → stop < source.utf8ByteSize := by
    intro hfinal
    have hpos := Text.byteSize_pos hfinal
    omega
  rw [scan, if_neg (Nat.not_lt.2 hsize)]
  generalize herror : (lexicon.scanFrom source.toList.length 0 source.toList).error? = error?
    at hstops
  simp only [herror]
  cases error? with
  | none =>
    obtain rfl : final = [] := hstops
    obtain ⟨hsource, -⟩ := hcuts.covered_append
    rw [List.append_nil] at hsource
    rw [Text.byteSize_nil, Nat.add_zero] at hbytes
    exact ⟨rfl, hbytes ▸ htiles, hsource, hcuts.offsetOf hsize rfl⟩
  | some error =>
    cases error with
    | noMatch offset remaining =>
      obtain ⟨hfinal, rfl, rfl, hnone⟩ := hstops
      simp only [String.toList_ofList]
      exact ⟨htiles, hlt hfinal, hslice, hnone⟩
    | zeroWidthMatch tag offset =>
      obtain ⟨hfinal, rfl, id, hwins⟩ := hstops
      exact ⟨htiles, hlt hfinal, final, id, hslice, hwins⟩
    | sourceTooLarge size => exact hstops

/-- Two letters, the second of two bytes, and a digit that no definition matches. -/
theorem scan_tiles_letters_before_digit :
    let tokens : List Token :=
      [⟨0, "letter", "a", .ofOffsets 0 1⟩, ⟨0, "letter", "é", .ofOffsets 1 3⟩]
    ∃ kind lexicon, empty.defineText "letter" "[a-zé]" = .ok (kind, lexicon) ∧
      lexicon.scan "aé1" = .error (.noMatch 3 "1") ∧ lexicon.Tiles "aé1" tokens 3 := by
  intro tokens
  obtain ⟨kind, lexicon, hdefine, hscan, htokens⟩ : ∃ kind lexicon,
      empty.defineText "letter" "[a-zé]" = .ok (kind, lexicon) ∧
        lexicon.scan "aé1" = .error (.noMatch 3 "1") ∧
        (lexicon.scanFrom 3 0 "aé1".toList).tokens = tokens := ⟨_, _, rfl, rfl, rfl⟩
  have htiles := scan_tiles lexicon "aé1" (by decide +kernel)
  rw [hscan] at htiles
  refine ⟨kind, lexicon, hdefine, hscan, ?_⟩
  rw [← htokens]
  exact htiles.1

end Lexicon

end TokenGrammar
