import TokenGrammar.Proofs.Calculator.Language
import TokenGrammar.Proofs.Calculator.Standard
import TokenGrammar.Proofs.Lexicon.Tiling
import TokenGrammar.Proofs.Pattern.Reach

/-!
# The tokens of the calculator

What the tokens of a source look like, and what they stand for: every token that is not blank is a
terminal of the grammar, unless it is a literal that is too large.
-/

namespace TokenGrammar

namespace Text

variable {base : Nat} {c : Char}

theorem toNat_le_of_le {c d : Char} (h : c ≤ d) : c.toNat ≤ d.toNat :=
  UInt32.le_iff_toNat_le.1 h

theorem plain_of_digitValue? {n : Nat} (h : digitValue? base c = some n) :
    c.utf8Size = 1 ∧ c ≠ '+' ∧ c ≠ '-' := by
  have hbounds : '0' ≤ c ∧ c ≤ 'f' := by
    unfold digitValue? at h
    by_cases hdigit : '0' ≤ c ∧ c ≤ '9'
    · exact ⟨hdigit.1, Char.le_trans hdigit.2 (by decide)⟩
    by_cases hlower : 'a' ≤ c ∧ c ≤ 'f'
    · exact ⟨Char.le_trans (by decide) hlower.1, hlower.2⟩
    by_cases hupper : 'A' ≤ c ∧ c ≤ 'F'
    · exact ⟨Char.le_trans (by decide) hupper.1, Char.le_trans hupper.2 (by decide)⟩
    · simp [hdigit, hlower, hupper] at h
  refine ⟨?_, ?_, ?_⟩
  · rw [Char.utf8Size_eq_one_iff]
    exact UInt32.le_trans hbounds.2 (by decide)
  · rintro rfl
    exact absurd hbounds.1 (by decide)
  · rintro rfl
    exact absurd hbounds.1 (by decide)

theorem digitValue?_isSome_of_digit (hbase : 10 ≤ base) (h : '0' ≤ c ∧ c ≤ '9') :
    (digitValue? base c).isSome = true := by
  have hlt : c.toNat - '0'.toNat < base := by
    have hle : c.toNat ≤ 57 := toNat_le_of_le h.2
    have hzero : '0'.toNat = 48 := rfl
    omega
  simp only [digitValue?, if_pos h, if_pos hlt, Option.isSome_some]

theorem digitValue?_isSome_of_lower (h : 'a' ≤ c ∧ c ≤ 'f') :
    (digitValue? 16 c).isSome = true := by
  have hdigit : ¬ ('0' ≤ c ∧ c ≤ '9') := fun hdigit =>
    absurd (Char.le_trans h.1 hdigit.2) (by decide)
  have hlt : c.toNat - 'a'.toNat + 10 < 16 := by
    have hle : c.toNat ≤ 102 := toNat_le_of_le h.2
    have hlow : 'a'.toNat = 97 := rfl
    omega
  simp only [digitValue?, if_neg hdigit, if_pos h, if_pos hlt, Option.isSome_some]

theorem digitValue?_isSome_of_upper (h : 'A' ≤ c ∧ c ≤ 'F') :
    (digitValue? 16 c).isSome = true := by
  have hdigit : ¬ ('0' ≤ c ∧ c ≤ '9') := fun hdigit =>
    absurd (Char.le_trans h.1 hdigit.2) (by decide)
  have hlower : ¬ ('a' ≤ c ∧ c ≤ 'f') := fun hlower =>
    absurd (Char.le_trans hlower.1 h.2) (by decide)
  have hlt : c.toNat - 'A'.toNat + 10 < 16 := by
    have hle : c.toNat ≤ 70 := toNat_le_of_le h.2
    have hlow : 'A'.toNat = 65 := rfl
    omega
  simp only [digitValue?, if_neg hdigit, if_neg hlower, if_pos h, if_pos hlt, Option.isSome_some]

theorem digitsFrom?_isSome {digits : List Char}
    (h : ∀ c ∈ digits, (digitValue? base c).isSome = true) (value : Nat) :
    (digitsFrom? base value digits).isSome = true := by
  induction digits generalizing value with
  | nil => rfl
  | cons c rest ih =>
    obtain ⟨n, hn⟩ := Option.isSome_iff_exists.1 (h c List.mem_cons_self)
    rw [digitsFrom?, hn]
    exact ih (fun d hd => h d (List.mem_cons_of_mem c hd)) _

theorem exists_natural? {digits : List Char} (hnonempty : digits ≠ [])
    (h : ∀ c ∈ digits, (digitValue? base c).isSome = true) :
    ∃ n, natural? base digits = some n := by
  cases digits with
  | nil => exact absurd rfl hnonempty
  | cons c rest => exact Option.isSome_iff_exists.1 (digitsFrom?_isSome h 0)

end Text

namespace Calculator

/-! ### Literals -/

theorem int64?_eq_literal? {base : Nat} {digits : List Char}
    (hdigits : ∀ c ∈ digits, (Text.digitValue? base c).isSome = true) :
    Text.int64? base digits = literal? base digits := by
  have hplain : ∀ c ∈ digits, c ≠ '+' ∧ c ≠ '-' := by
    intro c hc
    obtain ⟨n, hn⟩ := Option.isSome_iff_exists.1 (hdigits c hc)
    exact (Text.plain_of_digitValue? hn).2
  have hinteger : Text.integer? base digits = (Text.natural? base digits).map Int.ofNat := by
    unfold Text.integer?
    split
    · exact absurd rfl (hplain _ List.mem_cons_self).1
    · exact absurd rfl (hplain _ List.mem_cons_self).2
    · rfl
  rw [Text.int64?, literal?, hinteger]
  cases Text.natural? base digits with
  | none => rfl
  | some n =>
    simp only [Option.map_some, Option.bind_some, Text.toInt64?]
    have hmin : Int64.minValue.toInt ≤ Int.ofNat n :=
      Int.le_trans (by decide) (Int.natCast_nonneg n)
    have hiff : Int64.minValue.toInt ≤ Int.ofNat n ∧ Int.ofNat n ≤ Int64.maxValue.toInt ↔
        (n : Int) ≤ Int64.maxValue.toInt := and_iff_right hmin
    simp only [hiff]
    rfl

theorem markedHex?_eq_literal? {zero mark : Char} {digits : List Char} (hzero : zero.utf8Size = 1)
    (hmark : mark.utf8Size = 1) (hdigits : ∀ c ∈ digits, (Text.digitValue? 16 c).isSome = true) :
    Text.markedHex? (zero :: mark :: digits) = literal? 16 digits := by
  have hsplit : Text.splitAtByte? 2 (zero :: mark :: digits) = some ([zero, mark], digits) := by
    have hbytes := Text.splitAtByte?_byteSize [zero, mark] digits
    rwa [Text.byteSize_cons, Text.byteSize_cons, Text.byteSize_nil, hzero, hmark] at hbytes
  rw [Text.markedHex?, hsplit, Option.bind_some]
  exact int64?_eq_literal? hdigits

theorem literal?_cases {base : Nat} {digits : List Char} (hnonempty : digits ≠ [])
    (hdigits : ∀ c ∈ digits, (Text.digitValue? base c).isSome = true) :
    (∃ n, literal? base digits = some n) ∨
      ∃ n : Nat, Int64.maxValue.toInt < (n : Int) ∧ Text.natural? base digits = some n := by
  obtain ⟨n, hn⟩ := Text.exists_natural? hnonempty hdigits
  cases hliteral : literal? base digits with
  | some value => exact Or.inl ⟨value, rfl⟩
  | none => exact Or.inr ⟨n, (literal?_eq_none_iff hn).1 hliteral, hn⟩

/-! ### Texts that the patterns take -/

def IsDecimal (text : List Char) : Prop :=
  text ≠ [] ∧ ∀ c ∈ text, (Text.digitValue? 10 c).isSome = true

def IsHex (text : List Char) : Prop :=
  ∃ zero mark digits, text = zero :: mark :: digits ∧ zero.utf8Size = 1 ∧ mark.utf8Size = 1 ∧
    digits ≠ [] ∧ ∀ c ∈ digits, (Text.digitValue? 16 c).isSome = true

def IsSymbol (text : List Char) : Prop :=
  ∃ operator, Operator.ofSymbol? (String.ofList text) = some operator

variable {c : Char}

theorem le_of_contains_range {low high : Char} (h : (CharSet.range low high).contains c = true) :
    low ≤ c ∧ c ≤ high := by
  simpa [CharSet.contains] using h

theorem eq_of_contains_range {d : Char} (h : (CharSet.range d d).contains c = true) : c = d := by
  obtain ⟨hle, hge⟩ := le_of_contains_range h
  exact Char.le_antisymm hge hle

theorem contains_union {left right : CharSet} (h : (CharSet.union left right).contains c = true) :
    left.contains c = true ∨ right.contains c = true := by
  simpa [CharSet.contains] using h

theorem digitValue?_isSome_of_hexDigits (h : hexDigits.contains c = true) :
    (Text.digitValue? 16 c).isSome = true := by
  rcases contains_union h with hdigit | h
  · exact Text.digitValue?_isSome_of_digit (by decide) (le_of_contains_range hdigit)
  rcases contains_union h with hlower | hupper
  · exact Text.digitValue?_isSome_of_lower (le_of_contains_range hlower)
  · exact Text.digitValue?_isSome_of_upper (le_of_contains_range hupper)

theorem utf8Size_of_hexMarks (h : hexMarks.contains c = true) : c.utf8Size = 1 := by
  rcases contains_union h with h | h
  · rw [eq_of_contains_range h]
    rfl
  · rw [eq_of_contains_range h]
    rfl

theorem isSymbol_of_symbols (h : symbols.contains c = true) : IsSymbol [c] := by
  rcases contains_union h with h | h
  · rw [eq_of_contains_range h]
    exact ⟨.sub, rfl⟩
  rcases contains_union h with h | h
  · rw [eq_of_contains_range h]
    exact ⟨.add, rfl⟩
  rcases contains_union h with h | h
  · rw [eq_of_contains_range h]
    exact ⟨.mul, rfl⟩
  · rw [eq_of_contains_range h]
    exact ⟨.div, rfl⟩

/-- Every match of the pattern takes a text of this shape. -/
def Shapes (shape : List Char → Prop) (pattern : Pattern) : Prop :=
  ∀ place, ∀ next ∈ pattern.ends place, ∃ taken, place.Passes taken next ∧ shape taken

theorem shapes_decimal : Shapes IsDecimal (oneOrMore (.range '0' '9')) := by
  intro place next hnext
  obtain ⟨taken, hpasses, hnonempty, hmembers⟩ := Pattern.exists_of_mem_ends_repeated hnext
  refine ⟨taken, hpasses, hnonempty, fun c hc => ?_⟩
  exact Text.digitValue?_isSome_of_digit (Nat.le_refl 10) (le_of_contains_range (hmembers c hc))

theorem shapes_hex : Shapes IsHex hexPattern := by
  intro place next hnext
  obtain ⟨second, hsecond, hnext⟩ := Pattern.Ends.exists_of_mem_andThen hnext
  obtain ⟨third, hthird, hnext⟩ := Pattern.Ends.exists_of_mem_andThen hnext
  obtain ⟨zero, hpasses, hzero⟩ := Pattern.exists_of_mem_ends_set hsecond
  obtain ⟨mark, hpasses', hmark⟩ := Pattern.exists_of_mem_ends_set hthird
  obtain ⟨digits, hpasses'', hnonempty, hdigits⟩ := Pattern.exists_of_mem_ends_repeated hnext
  refine ⟨zero :: mark :: digits, hpasses.trans (hpasses'.trans hpasses''), zero, mark, digits, rfl,
    ?_, utf8Size_of_hexMarks hmark, hnonempty, fun c hc => ?_⟩
  · rw [eq_of_contains_range hzero]
    rfl
  · exact digitValue?_isSome_of_hexDigits (hdigits c hc)

theorem shapes_symbol : Shapes IsSymbol (.set symbols) := by
  intro place next hnext
  obtain ⟨c, hpasses, hmember⟩ := Pattern.exists_of_mem_ends_set hnext
  exact ⟨[c], hpasses, isSymbol_of_symbols hmember⟩

/-! ### Scanned tokens -/

theorem size_le : standardVocabulary.lexicon.size ≤ Word.limit := by decide

section Scan

variable {source : String} {sequence : TokenSequence} {token : Token}
  (hscan : standardVocabulary.lexicon.scan source = .ok sequence)
  (htoken : token ∈ sequence.tokens)

include hscan htoken

theorem text_of_scan (definition : Definition) {pattern : Pattern} {shape : List Char → Prop}
    (hshapes : Shapes shape pattern) (hmatcher : definition.matcher = (atStart pattern).matcher)
    (hdefinition : standardVocabulary.lexicon.definitions[token.id.index]? = some definition) :
    shape token.text.toList := by
  obtain ⟨winner, after, hwinner, -, hmatch⟩ :=
    Lexicon.exists_definition_of_scan size_le hscan htoken
  obtain rfl : definition = winner := Option.some.inj (hdefinition.symm.trans hwinner)
  rw [Definition.match?, hmatcher] at hmatch
  obtain ⟨range, hrange, hstop⟩ := Option.map_eq_some_iff.1 hmatch
  obtain ⟨found, hfound, rfl⟩ := Option.map_eq_some_iff.1 hrange
  obtain ⟨next, hnext, hindex⟩ := Pattern.exists_of_find?_atStart hfound
  obtain ⟨taken, hpasses, htaken⟩ := hshapes _ next hnext
  have hrest : token.text.toList ++ after = taken ++ next.rest := hpasses.rest
  have hlength : found.stop = taken.length := by
    rw [hindex, hpasses.index, Place.start, Nat.zero_add]
  have hsize : Text.byteSize token.text.toList = Text.byteSize taken :=
    calc Text.byteSize token.text.toList
      _ = Text.byteSize ((token.text.toList ++ after).take found.stop) := by
        rw [Text.byteSize_toList, ← hstop, Pattern.Found.toBytes]
      _ = Text.byteSize taken := by rw [hrest, hlength, List.take_left]
  rwa [(Text.append_inj_of_byteSize hrest hsize).1]

theorem isHex_of_scan (hid : token.id.index = 1) : IsHex token.text.toList :=
  text_of_scan hscan htoken hexDefinition shapes_hex rfl (by rw [hid]; rfl)

theorem isDecimal_of_scan (hid : token.id.index = 2) : IsDecimal token.text.toList :=
  text_of_scan hscan htoken decimalDefinition shapes_decimal rfl (by rw [hid]; rfl)

theorem isSymbol_of_scan (hid : token.id.index = 3) : IsSymbol token.text.toList :=
  text_of_scan hscan htoken operatorDefinition shapes_symbol rfl (by rw [hid]; rfl)

end Scan

/-- The readers of the calculator give literals their values. -/
structure Readable (token : Token) : Prop where
  hex : standardVocabulary.hex.accepts token = true →
    readHex token.text = literal? 16 (token.text.toList.drop 2)
  decimal : standardVocabulary.decimal.accepts token = true →
    readDecimal token.text = literal? 10 token.text.toList

theorem readable_of_scan {source : String} {sequence : TokenSequence}
    (hscan : standardVocabulary.lexicon.scan source = .ok sequence) :
    ∀ token ∈ sequence.tokens, Readable token := by
  intro token htoken
  constructor
  · intro haccepts
    obtain ⟨zero, mark, digits, htext, hzero, hmark, -, hdigits⟩ :=
      isHex_of_scan hscan htoken (Kind.accepts_iff.1 haccepts)
    rw [readHex, htext]
    exact markedHex?_eq_literal? hzero hmark hdigits
  · intro haccepts
    exact int64?_eq_literal? (isDecimal_of_scan hscan htoken (Kind.accepts_iff.1 haccepts)).2

section Decode

variable {token : Token}

theorem terminal?_standard (token : Token) :
    standardVocabulary.terminal? token =
      match token.id.index with
      | 1 => (literal? 16 (token.text.toList.drop 2)).map .number
      | 2 => (literal? 10 token.text.toList).map .number
      | 3 => (Operator.ofSymbol? token.text).map .operator
      | 4 => some .opening
      | 5 => some .closing
      | _ => none := by
  simp only [Vocabulary.terminal?, Kind.accepts_iff]
  match token.id.index with
  | 0 | 1 | 2 | 3 | 4 | 5 => rfl
  | index + 6 => rfl

theorem terminal?_number_iff (hreadable : Readable token) (n : Int64) :
    standardVocabulary.terminal? token = some (.number n) ↔
      standardVocabulary.hex.decode token = some n ∨
        standardVocabulary.hex.decode token = none ∧
          standardVocabulary.decimal.decode token = some n := by
  have hhex := hreadable.hex
  have hdecimal := hreadable.decimal
  rw [Kind.accepts_iff] at hhex hdecimal
  change token.id.index = 1 → _ at hhex
  change token.id.index = 2 → _ at hdecimal
  rw [terminal?_standard, Kind.decode_eq, Kind.decode_eq]
  change _ ↔ (if token.id.index = 1 then readHex token.text else none) = some n ∨
    (if token.id.index = 1 then readHex token.text else none) = none ∧
      (if token.id.index = 2 then readDecimal token.text else none) = some n
  split <;> simp_all

theorem terminal?_operator_iff (operator : Operator) :
    standardVocabulary.terminal? token = some (.operator operator) ↔
      standardVocabulary.operator.decode token = some operator := by
  rw [terminal?_standard, Kind.decode_eq]
  change _ ↔ (if token.id.index = 3 then Operator.ofSymbol? token.text else none) = some operator
  split <;> simp_all

theorem terminal?_opening_iff (value : Unit) :
    standardVocabulary.terminal? token = some .opening ↔
      standardVocabulary.opening.decode token = some value := by
  rw [terminal?_standard, Kind.decode_eq]
  change _ ↔ (if token.id.index = 4 then some () else none) = some value
  split <;> simp_all

theorem terminal?_closing_iff (value : Unit) :
    standardVocabulary.terminal? token = some .closing ↔
      standardVocabulary.closing.decode token = some value := by
  rw [terminal?_standard, Kind.decode_eq]
  change _ ↔ (if token.id.index = 5 then some () else none) = some value
  split <;> simp_all

theorem terminal?_eq_none_of_tooLarge (h : standardVocabulary.TooLarge token) :
    standardVocabulary.terminal? token = none := by
  obtain ⟨n, hlarge, ⟨haccepts, hvalue⟩ | ⟨haccepts, hvalue⟩⟩ := h
  · have hid : token.id.index = 1 := Kind.accepts_iff.1 haccepts
    rw [terminal?_standard, hid]
    simp only [(literal?_eq_none_iff hvalue).2 hlarge, Option.map_none]
  · have hid : token.id.index = 2 := Kind.accepts_iff.1 haccepts
    rw [terminal?_standard, hid]
    simp only [(literal?_eq_none_iff hvalue).2 hlarge, Option.map_none]

end Decode

/-- **Every token of a source counts**: it is blank, or it stands for a terminal, or it is a literal
that is too large. -/
theorem terminal?_of_scan {source : String} {sequence : TokenSequence}
    (hscan : standardVocabulary.lexicon.scan source = .ok sequence) :
    ∀ token ∈ sequence.tokens, standardVocabulary.blank.accepts token = true ∨
      (∃ terminal, standardVocabulary.terminal? token = some terminal) ∨
      standardVocabulary.TooLarge token := by
  intro token htoken
  obtain ⟨definition, _, hdefinition, -⟩ :=
    Lexicon.exists_definition_of_scan size_le hscan htoken
  obtain ⟨hid, -⟩ := List.getElem?_eq_some_iff.1 hdefinition
  have hsix : token.id.index < 6 := hid
  rw [terminal?_standard]
  match hkind : token.id.index with
  | 0 => exact Or.inl (Kind.accepts_iff.2 hkind)
  | 1 =>
    obtain ⟨zero, mark, digits, htext, -, -, hnonempty, hdigits⟩ := isHex_of_scan hscan htoken hkind
    rw [htext]
    rcases literal?_cases hnonempty hdigits with ⟨n, hn⟩ | ⟨n, hlarge, hn⟩
    · exact Or.inr (Or.inl ⟨.number n, congrArg (Option.map Terminal.number) hn⟩)
    · refine Or.inr (Or.inr ⟨n, hlarge, Or.inl ⟨Kind.accepts_iff.2 hkind, ?_⟩⟩)
      rw [htext]
      exact hn
  | 2 =>
    obtain ⟨hnonempty, hdigits⟩ := isDecimal_of_scan hscan htoken hkind
    rcases literal?_cases hnonempty hdigits with ⟨n, hn⟩ | ⟨n, hlarge, hn⟩
    · exact Or.inr (Or.inl ⟨.number n, congrArg (Option.map Terminal.number) hn⟩)
    · exact Or.inr (Or.inr ⟨n, hlarge, Or.inr ⟨Kind.accepts_iff.2 hkind, hn⟩⟩)
  | 3 =>
    obtain ⟨operator, hoperator⟩ := isSymbol_of_scan hscan htoken hkind
    rw [String.ofList_toList] at hoperator
    exact Or.inr (Or.inl ⟨.operator operator, by rw [hoperator]; rfl⟩)
  | 4 => exact Or.inr (Or.inl ⟨.opening, rfl⟩)
  | 5 => exact Or.inr (Or.inl ⟨.closing, rfl⟩)
  | id + 6 => omega

end Calculator

end TokenGrammar
