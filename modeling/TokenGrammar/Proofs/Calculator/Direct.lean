import Mathlib.Data.Nat.Digits.Defs
import TokenGrammar.Proofs.Calculator.Correct
import TokenGrammar.Proofs.Calculator.Scanner

/-!
# A direct scanner

The tokens of the calculator without patterns: what a text begins with is blank characters, or a
hexadecimal literal, or decimal digits, or one of the symbols, tried in this order and always as
long as possible. Scanning with the patterns does the same.
-/

namespace TokenGrammar

namespace Lexicon

theorem Scan.result_cons (token : Token) (scan : Scan) :
    (scan.cons token).result = scan.result.map (token :: ·) := by
  simp only [result, cons]
  split <;> rfl

end Lexicon

namespace Calculator

namespace Direct

open Pattern (runLength headLength consLength)

def isHexDigit (c : Char) : Bool :=
  c.isDigit || decide ('a' ≤ c ∧ c ≤ 'f') || decide ('A' ≤ c ∧ c ≤ 'F')

/-- A zero, the mark of the base and all hexadecimal digits behind it, if there are any. -/
def hexLiteral : List Char → List Char
  | '0' :: mark :: rest =>
    let digits := rest.takeWhile isHexDigit
    if (mark = 'x' ∨ mark = 'X') ∧ digits ≠ [] then '0' :: mark :: digits else []
  | _ => []

def symbol (members : List Char) : List Char → List Char
  | c :: _ => if c ∈ members then [c] else []
  | [] => []

structure Piece where
  id : Serial
  tag : String
  taken : List Char

/-- What each kind of token takes from the start of a text; nothing where there is none. -/
def pieces (text : List Char) : List Piece :=
  [⟨0, "WS", text.takeWhile Text.isBlank⟩,
    ⟨1, "HEX", hexLiteral text⟩,
    ⟨2, "INT", text.takeWhile Char.isDigit⟩,
    ⟨3, "OP", symbol ['+', '-', '*', '/'] text⟩,
    ⟨4, "LPAREN", symbol ['('] text⟩,
    ⟨5, "RPAREN", symbol [')'] text⟩]

def next? (text : List Char) : Option Piece := (pieces text).find? fun piece => piece.taken ≠ []

theorem hexLiteral_isPrefix (text : List Char) : hexLiteral text <+: text := by
  unfold hexLiteral
  split
  · next mark rest =>
    simp only
    split
    · simp [List.takeWhile_prefix]
    · exact List.nil_prefix
  · exact List.nil_prefix

theorem symbol_isPrefix (members text : List Char) : symbol members text <+: text := by
  unfold symbol
  split
  · split
    · simp
    · exact List.nil_prefix
  · exact List.nil_prefix

theorem taken_isPrefix {text : List Char} : ∀ piece ∈ pieces text, piece.taken <+: text := by
  simp [pieces, List.takeWhile_prefix, hexLiteral_isPrefix, symbol_isPrefix]

theorem taken_of_next? {text : List Char} {piece : Piece} (h : next? text = some piece) :
    piece.taken ≠ [] ∧ piece.taken <+: text := by
  refine ⟨?_, taken_isPrefix piece (List.mem_of_find?_eq_some h)⟩
  simpa using List.find?_some h

/-- Cuts pieces off a text from a byte offset on, as long as there are any. -/
def scanFrom (offset : Nat) (text : List Char) : Except ScanError (List Token) :=
  if text = [] then .ok []
  else
    match _ : next? text with
    | none => .error (.noMatch offset (String.ofList text))
    | some piece =>
      let stop := offset + Text.byteSize piece.taken
      (scanFrom stop (text.drop piece.taken.length)).map
        (⟨piece.id, piece.tag, String.ofList piece.taken, .ofOffsets offset stop⟩ :: ·)
termination_by text.length
decreasing_by
  obtain ⟨hnonempty, hfront⟩ := taken_of_next? ‹next? text = some piece›
  have hpos : 0 < piece.taken.length := List.length_pos_iff.2 hnonempty
  have hle := hfront.length_le
  rw [List.length_drop]
  omega

/-! ### The pieces are what the patterns take -/

def Piece.probe (piece : Piece) : Probe := ⟨piece.id, piece.tag, Text.byteSize piece.taken⟩

/-- The definition has the tag of the piece and takes as much of the text as the piece has. -/
def Piece.Fits (text : List Char) (definition : Definition) (piece : Piece) : Prop :=
  definition.tag = piece.tag ∧
    definition.match? text =
      if piece.taken.length = 0 then none else some (Text.byteSize piece.taken)

theorem contains_hexDigits (c : Char) : hexDigits.contains c = isHexDigit c := by
  rw [isHexDigit, ← contains_decimal]
  simp [hexDigits, CharSet.contains, Bool.or_assoc]

theorem contains_range_self (d c : Char) : (CharSet.range d d).contains c = decide (c = d) :=
  CharSet.contains_single d c

theorem contains_hexMarks (c : Char) : hexMarks.contains c = decide (c = 'x' ∨ c = 'X') := by
  rw [hexMarks, CharSet.contains, contains_range_self, contains_range_self, Bool.decide_or]

theorem hexLength_eq (text : List Char) : hexLength text = (hexLiteral text).length := by
  have hdigits : ∀ rest, runLength hexDigits rest = (rest.takeWhile isHexDigit).length := by
    intro rest
    rw [runLength, funext contains_hexDigits]
  rcases text with _ | ⟨first, _ | ⟨mark, rest⟩⟩
  · rfl
  · simp [hexLength, consLength, hexLiteral]
  · simp only [hexLength, consLength, contains_range_self, contains_hexMarks, hdigits]
    by_cases hzero : first = '0'
    · subst hzero
      simp only [hexLiteral, ne_eq, List.length_eq_zero_iff, decide_eq_true_eq]
      split <;> simp
    · simp [hexLiteral, hzero]

theorem headLength_eq {members : CharSet} {symbols : List Char}
    (hmembers : ∀ c, members.contains c = decide (c ∈ symbols)) (text : List Char) :
    headLength members text = (symbol symbols text).length := by
  cases text with
  | nil => rfl
  | cons c rest =>
    simp only [headLength, symbol, hmembers, decide_eq_true_eq]
    split <;> rfl

theorem fits_of_measures {text taken : List Char} {definition : Definition} {pattern : Pattern}
    {length : List Char → Nat} (hmatcher : definition.matcher = (atStart pattern).matcher)
    (hmeasures : pattern.Measures length) (hfront : taken <+: text)
    (hlength : length text = taken.length) (id : Serial) :
    Piece.Fits text definition ⟨id, definition.tag, taken⟩ := by
  refine ⟨rfl, ?_⟩
  rw [match?_eq_of_measures hmatcher hmeasures, hlength, ← List.prefix_iff_eq_take.1 hfront]

theorem fits_pieces (text : List Char) :
    List.Forall₂ (Piece.Fits text) standardVocabulary.lexicon.definitions (pieces text) := by
  have hdecimal : runLength (.range '0' '9') text = (text.takeWhile Char.isDigit).length := by
    rw [runLength, funext contains_decimal]
  have hsymbols : ∀ c, symbols.contains c = decide (c ∈ ['+', '-', '*', '/']) := by
    intro c
    rw [symbols, CharSet.contains, contains_range_self, CharSet.contains, contains_range_self,
      CharSet.contains, contains_range_self, contains_range_self]
    grind
  have hsingle : ∀ d c, (CharSet.range d d).contains c = decide (c ∈ [d]) := by
    intro d c
    rw [contains_range_self]
    simp
  have hhex := (Pattern.measures_repeated hexDigits).cons hexMarks |>.cons (.range '0' '0')
  have hfront : ∀ members, symbol members text <+: text := fun members =>
    symbol_isPrefix members text
  have hsymbol : ∀ members list, (∀ c, members.contains c = decide (c ∈ list)) →
      headLength members text = (symbol list text).length := fun _ _ hmembers =>
    headLength_eq hmembers text
  have hset := Pattern.measures_set
  exact .cons (fits_of_measures rfl (Pattern.measures_repeated CharSet.blank)
      (List.takeWhile_prefix _) rfl 0)
    (.cons (fits_of_measures rfl hhex (hexLiteral_isPrefix text) (hexLength_eq text) 1)
    (.cons (fits_of_measures rfl (Pattern.measures_repeated (.range '0' '9'))
      (List.takeWhile_prefix _) hdecimal 2)
    (.cons (fits_of_measures rfl (hset symbols) (hfront _) (hsymbol _ _ hsymbols) 3)
    (.cons (fits_of_measures rfl (hset _) (hfront _) (hsymbol _ _ (hsingle '(')) 4)
    (.cons (fits_of_measures rfl (hset _) (hfront _) (hsymbol _ _ (hsingle ')')) 5)
    .nil)))))

theorem probeFrom_eq_find? {text : List Char} {definitions : List Definition} {pieces : List Piece}
    (hfits : List.Forall₂ (Piece.Fits text) definitions pieces) {start : Nat}
    (hids : pieces.map Piece.id = (List.range' start pieces.length).map Serial.ofIndex) :
    Lexicon.probeFrom text start definitions =
      (pieces.find? fun piece => piece.taken ≠ []).map Piece.probe := by
  induction hfits generalizing start with
  | nil => rfl
  | @cons definition piece definitions pieces hfits _ ih =>
    obtain ⟨htag, hmatch⟩ := hfits
    rw [List.map_cons, List.length_cons, List.range'_succ, List.map_cons,
      List.cons_eq_cons] at hids
    obtain ⟨hid, hids⟩ := hids
    rw [Lexicon.probeFrom, hmatch, List.find?_cons]
    by_cases hnil : piece.taken = []
    · simp [hnil, ih hids]
    · simp [hnil, htag, Piece.probe, hid]

theorem probe_eq_next? (text : List Char) :
    standardVocabulary.lexicon.probe text = (next? text).map Piece.probe :=
  probeFrom_eq_find? (fits_pieces text) rfl

/-! ### Scanning -/

theorem scanFrom_nil (offset : Nat) : scanFrom offset [] = .ok [] := by
  rw [scanFrom, if_pos rfl]

theorem scanFrom_of_none {text : List Char} (hnext : next? text = none) (hnonempty : text ≠ [])
    (offset : Nat) : scanFrom offset text = .error (.noMatch offset (String.ofList text)) := by
  rw [scanFrom, if_neg hnonempty]
  split
  · rfl
  · next piece heq =>
    rw [hnext] at heq
    cases heq

theorem scanFrom_of_some {text : List Char} {piece : Piece} (hnext : next? text = some piece)
    (offset : Nat) :
    scanFrom offset text =
      (scanFrom (offset + Text.byteSize piece.taken) (text.drop piece.taken.length)).map
        (⟨piece.id, piece.tag, String.ofList piece.taken,
          .ofOffsets offset (offset + Text.byteSize piece.taken)⟩ :: ·) := by
  have hnonempty : text ≠ [] := by
    rintro rfl
    cases hnext
  rw [scanFrom, if_neg hnonempty]
  split
  · next heq =>
    rw [hnext] at heq
    cases heq
  · next piece' heq =>
    obtain rfl : piece = piece' := Option.some.inj (hnext.symm.trans heq)
    rfl

end Direct

/-- The patterns take what the direct scanner takes, piece by piece. -/
theorem result_scanFrom {fuel : Nat} {text : List Char} (hfuel : text.length ≤ fuel)
    (offset : Nat) :
    (standardVocabulary.lexicon.scanFrom fuel offset text).result =
      Direct.scanFrom offset text := by
  induction fuel generalizing text offset with
  | zero =>
    obtain rfl : text = [] := List.length_eq_zero_iff.1 (Nat.le_zero.1 hfuel)
    rw [Direct.scanFrom_nil]
    rfl
  | succ fuel ih =>
    by_cases hempty : text = []
    · subst hempty
      rw [Direct.scanFrom_nil]
      rfl
    · have hprobe := Direct.probe_eq_next? text
      cases hnext : Direct.next? text with
      | none =>
        rw [hnext, Option.map_none] at hprobe
        rw [Lexicon.scanFrom_of_noMatch fuel offset hempty
          (Lexicon.probeFrom_eq_none_iff.1 hprobe), Direct.scanFrom_of_none hnext hempty]
        rfl
      | some piece =>
        rw [hnext, Option.map_some] at hprobe
        have hwins := Lexicon.wins_of_probe hprobe
        have hdirect := Direct.scanFrom_of_some hnext offset
        obtain ⟨hnonempty, rest, rfl⟩ := Direct.taken_of_next? hnext
        have hpos : 0 < piece.taken.length := List.length_pos_iff.2 hnonempty
        rw [List.length_append] at hfuel
        rw [Lexicon.scanFrom_of_wins fuel offset hnonempty hwins, Lexicon.Scan.result_cons,
          ih (by omega), hdirect, List.drop_left]

theorem tokenize_eq_direct {source : String} (hsize : source.utf8ByteSize ≤ Lexicon.sourceLimit) :
    (standard.tokenize source).value = (Direct.scanFrom 0 source.toList).map fun tokens =>
      ⟨tokens.toArray, source.utf8ByteSize⟩ := by
  rw [tokenize_value, Lexicon.scan_eq_result _ hsize]
  exact congrArg _ (result_scanFrom (Nat.le_refl _) 0)

namespace Direct

/-- Scanning fails only where there is no next piece. -/
theorem noMatch_of_scanFrom {offset : Nat} {text : List Char} {error : ScanError}
    (h : scanFrom offset text = .error error) :
    ∃ stop remaining, error = .noMatch stop remaining := by
  fun_induction scanFrom offset text with
  | case1 => cases h
  | case2 offset text _ _ =>
    cases h
    exact ⟨offset, _, rfl⟩
  | case3 offset text _ piece _ stop ih =>
    cases hrest : scanFrom stop (text.drop piece.taken.length) with
    | ok tokens =>
      rw [hrest] at h
      cases h
    | error error' =>
      rw [hrest] at h
      cases h
      exact ih hrest

end Direct

/-! ### Values of literals -/

/-- The value of a decimal digit, or of a letter as a digit. -/
def digitWorth (c : Char) : Nat :=
  if c ≤ '9' then c.toNat - '0'.toNat
  else if c ≤ 'F' then c.toNat - 'A'.toNat + 10
  else c.toNat - 'a'.toNat + 10

/-- The number that digits denote in a base, the last digit counting least. -/
def numeral (base : Nat) (digits : List Char) : Nat :=
  Nat.ofDigits base (digits.reverse.map digitWorth)

theorem numeral_cons (base : Nat) (c : Char) (digits : List Char) :
    numeral base (c :: digits) = digitWorth c * base ^ digits.length + numeral base digits := by
  simp only [numeral, List.reverse_cons, List.map_append, List.map_cons, List.map_nil,
    Nat.ofDigits_append, Nat.ofDigits_singleton, List.length_map, List.length_reverse]
  ring

theorem digitWorth_eq {base n : Nat} {c : Char} (h : Text.digitValue? base c = some n) :
    digitWorth c = n := by
  have hle : ∀ d : Char, c ≤ d ↔ c.toNat ≤ d.toNat := fun _ => UInt32.le_iff_toNat_le
  have hge : ∀ d : Char, d ≤ c ↔ d.toNat ≤ c.toNat := fun _ => UInt32.le_iff_toNat_le
  simp only [Text.digitValue?, digitWorth, hle, hge, Char.reduceToNat] at h ⊢
  grind

theorem digitsFrom?_eq_numeral {base : Nat} {digits : List Char}
    (hdigits : ∀ c ∈ digits, (Text.digitValue? base c).isSome = true) (value : Nat) :
    Text.digitsFrom? base value digits =
      some (value * base ^ digits.length + numeral base digits) := by
  induction digits generalizing value with
  | nil => simp [Text.digitsFrom?, numeral]
  | cons c digits ih =>
    obtain ⟨hc, hdigits⟩ := List.forall_mem_cons.1 hdigits
    obtain ⟨n, hn⟩ := Option.isSome_iff_exists.1 hc
    rw [Text.digitsFrom?, hn, numeral_cons, digitWorth_eq hn]
    simp only [Option.bind_eq_bind, Option.bind_some, ih hdigits, List.length_cons]
    congr 1
    ring

/-- The number, unless it is too large for 64 bits. -/
def fitting? (n : Nat) : Option Int :=
  if (n : Int) ≤ Int64.maxValue.toInt then some (n : Int) else none

theorem toInt_literal? {base : Nat} {digits : List Char} (hnonempty : digits ≠ [])
    (hdigits : ∀ c ∈ digits, (Text.digitValue? base c).isSome = true) :
    (literal? base digits).map Int64.toInt = fitting? (numeral base digits) := by
  have hvalue : Text.natural? base digits = some (numeral base digits) := by
    obtain ⟨c, rest, rfl⟩ := List.exists_cons_of_ne_nil hnonempty
    have hfrom := digitsFrom?_eq_numeral hdigits 0
    rwa [Nat.zero_mul, Nat.zero_add] at hfrom
  rw [literal?, hvalue, Option.bind_some, fitting?]
  split
  · next hfits =>
    have hmax : Int64.maxValue.toInt = 2 ^ 63 - 1 := by decide
    rw [Option.map_some, Int64.toInt_ofNat_of_lt (by omega)]
  · rfl

section Decode

variable {source : String} {tokens : TokenSequence} {token : Token}
  (hscan : standardVocabulary.lexicon.scan source = .ok tokens) (htoken : token ∈ tokens.tokens)

include hscan htoken

/-- Tags tell the definitions apart, so a token with the tag of a kind is of that kind. -/
theorem accepts_of_tag {α : Type} {kind : Kind α}
    (hkind : standardVocabulary.lexicon.tag? kind.id = some kind.tag)
    (htag : token.tag = kind.tag) : kind.accepts token = true := by
  have htags : (standardVocabulary.lexicon.definitions.map Definition.tag).Nodup := by decide
  obtain ⟨definition, _, hdefinition, hfound, -⟩ :=
    Lexicon.exists_definition_of_scan size_le hscan htoken
  have htagged : standardVocabulary.lexicon.tag? token.id = some kind.tag := by
    rw [Lexicon.tag?, hdefinition, Option.map_some, hfound, htag]
  have hsame := htagged.trans hkind.symm
  rw [Lexicon.tag?, Lexicon.tag?, ← List.getElem?_map, ← List.getElem?_map] at hsame
  obtain ⟨hlt, -⟩ := List.getElem?_eq_some_iff.1 hdefinition
  exact Kind.accepts_iff.2 ((List.getElem?_inj (by rwa [List.length_map]) htags).1 hsame)

theorem toInt_decode_hex (htag : token.tag = "HEX") :
    (standardVocabulary.hex.decode token).map Int64.toInt =
      fitting? (numeral 16 (token.text.toList.drop 2)) := by
  have haccepts : standardVocabulary.hex.accepts token = true :=
    accepts_of_tag hscan htoken rfl htag
  have hread : readHex token.text = literal? 16 (token.text.toList.drop 2) :=
    (readable_of_scan hscan token htoken).hex haccepts
  obtain ⟨zero, mark, digits, htext, -, -, hnonempty, hdigits⟩ :=
    isHex_of_scan hscan htoken (Kind.accepts_iff.1 haccepts)
  rw [Kind.decode, if_pos haccepts]
  change (readHex token.text).map Int64.toInt = _
  rw [hread, htext]
  exact toInt_literal? hnonempty hdigits

theorem toInt_decode_decimal (htag : token.tag = "INT") :
    (standardVocabulary.decimal.decode token).map Int64.toInt =
      fitting? (numeral 10 token.text.toList) := by
  have haccepts : standardVocabulary.decimal.accepts token = true :=
    accepts_of_tag hscan htoken rfl htag
  have hread : readDecimal token.text = literal? 10 token.text.toList :=
    (readable_of_scan hscan token htoken).decimal haccepts
  obtain ⟨hnonempty, hdigits⟩ := isDecimal_of_scan hscan htoken (Kind.accepts_iff.1 haccepts)
  rw [Kind.decode, if_pos haccepts]
  change (readDecimal token.text).map Int64.toInt = _
  rw [hread]
  exact toInt_literal? hnonempty hdigits

theorem isSome_decode_operator (htag : token.tag = "OP") :
    (standardVocabulary.operator.decode token).isSome = true := by
  have haccepts : standardVocabulary.operator.accepts token = true :=
    accepts_of_tag hscan htoken rfl htag
  obtain ⟨operator, hoperator⟩ := isSymbol_of_scan hscan htoken (Kind.accepts_iff.1 haccepts)
  rw [String.ofList_toList] at hoperator
  rw [Kind.decode, if_pos haccepts]
  change (Operator.ofSymbol? token.text).isSome = true
  rw [hoperator, Option.isSome_some]

theorem isSome_decode_unit (kind : Kind Unit) (hread : kind.read = readUnit)
    (hkind : standardVocabulary.lexicon.tag? kind.id = some kind.tag)
    (htag : token.tag = kind.tag) : (kind.decode token).isSome = true := by
  rw [Kind.decode, if_pos (accepts_of_tag hscan htoken hkind htag), hread, readUnit,
    Option.isSome_some]

end Decode

/-- **The calculator scans directly.** For every source that is not too large, scanning with the
patterns gives what the direct scanner gives: the same tokens, or the same offset without a match,
and never an empty match. Blanks, operators and parentheses always have a value, and a literal has
the value of its digits unless that is too large for 64 bits. -/
theorem tokenize_is_direct :
    ∃ calculator, Calculator.new = .ok calculator ∧
      (∀ source, source.utf8ByteSize ≤ Lexicon.sourceLimit →
        ((calculator.tokenize source).value =
          (Direct.scanFrom 0 source.toList).map fun tokens =>
            ⟨tokens.toArray, source.utf8ByteSize⟩) ∧
        ∀ tag offset, (calculator.tokenize source).value ≠ .error (.zeroWidthMatch tag offset)) ∧
      ∀ source tokens, (calculator.tokenize source).value = .ok tokens → ∀ token ∈ tokens.tokens,
        let vocabulary := calculator.vocabulary
        (token.tag = "WS" → (vocabulary.blank.decode token).isSome = true) ∧
        (token.tag = "OP" → (vocabulary.operator.decode token).isSome = true) ∧
        (token.tag = "LPAREN" → (vocabulary.opening.decode token).isSome = true) ∧
        (token.tag = "RPAREN" → (vocabulary.closing.decode token).isSome = true) ∧
        (token.tag = "INT" → (vocabulary.decimal.decode token).map Int64.toInt =
          fitting? (numeral 10 token.text.toList)) ∧
        (token.tag = "HEX" → (vocabulary.hex.decode token).map Int64.toInt =
          fitting? (numeral 16 (token.text.toList.drop 2))) := by
  refine ⟨standard, new_eq_standard, ?_, ?_⟩
  · intro source hsize
    have hdirect := tokenize_eq_direct hsize
    refine ⟨hdirect, fun tag offset hzero => ?_⟩
    rw [hdirect] at hzero
    cases hscan : Direct.scanFrom 0 source.toList with
    | ok tokens =>
      rw [hscan] at hzero
      cases hzero
    | error error =>
      obtain ⟨stop, remaining, rfl⟩ := Direct.noMatch_of_scanFrom hscan
      rw [hscan] at hzero
      cases hzero
  · intro source tokens htokens token htoken
    rw [tokenize_value] at htokens
    exact ⟨isSome_decode_unit htokens htoken standardVocabulary.blank rfl rfl,
      isSome_decode_operator htokens htoken,
      isSome_decode_unit htokens htoken standardVocabulary.opening rfl rfl,
      isSome_decode_unit htokens htoken standardVocabulary.closing rfl rfl,
      toInt_decode_decimal htokens htoken, toInt_decode_hex htokens htoken⟩

end Calculator

end TokenGrammar
