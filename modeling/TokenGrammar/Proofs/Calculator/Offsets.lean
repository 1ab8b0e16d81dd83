import TokenGrammar.Console.Report
import TokenGrammar.Proofs.Calculator.Direct
import TokenGrammar.Proofs.Lexicon.Registering

/-!
# Where errors point

The offset of an error lies between two characters of the source, so a report can put its caret
under the character there. What follows the offset is what the error says: the text that no
definition matches, or the token that does not fit, which is not blank, or nothing.
-/

namespace TokenGrammar

namespace Text

/-- The byte offset lies between the two parts of the source. -/
structure Parts (source : String) (offset : Nat) (before after : String) : Prop where
  append : source = before ++ after
  size : before.utf8ByteSize = offset

theorem parts_of_append {source : String} {before after : List Char}
    (h : before ++ after = source.toList) :
    Parts source (byteSize before) (String.ofList before) (String.ofList after) where
  append := by rw [← String.ofList_append, h, String.ofList_toList]
  size := utf8ByteSize_ofList before

namespace Parts

variable {source before after : String} {offset : Nat} (h : Parts source offset before after)

include h

theorem le_size : offset ≤ source.utf8ByteSize := by
  rw [h.append, String.utf8ByteSize_append, h.size]
  exact Nat.le_add_right _ _

theorem isValid : String.Pos.Raw.IsValid source ⟨offset⟩ := by
  rw [String.Pos.Raw.isValid_iff_exists_append]
  exact ⟨before, after, h.append, by rw [String.rawEndPos, h.size]⟩

theorem splitAtByte? :
    Text.splitAtByte? offset source.toList = some (before.toList, after.toList) := by
  rw [h.append, String.toList_append, ← h.size, ← byteSize_toList]
  exact splitAtByte?_byteSize before.toList after.toList

theorem column : Report.column source offset = before.length := by
  simp only [Report.column, h.splitAtByte?, String.length_toList]

end Parts

end Text

/-! ### Scanning -/

/-- What the source looks like around the offset of an error. -/
def ScanError.Describes (error : ScanError) (source before after : String) : Prop :=
  match error with
  | noMatch _ remaining => remaining = after ∧ after ≠ ""
  | zeroWidthMatch _ _ => after ≠ ""
  | sourceTooLarge size => before = "" ∧ size = source.utf8ByteSize ∧ Lexicon.sourceLimit < size

theorem Lexicon.StopsFor.describes {lexicon : Lexicon} {stop : Nat} {final : List Char}
    {error : ScanError} (h : lexicon.StopsFor stop final (some error)) (source before : String) :
    error.Describes source before (String.ofList final) := by
  cases error with
  | noMatch offset remaining =>
    obtain ⟨hfinal, -, hremaining, -⟩ := h
    exact ⟨hremaining, by simpa using hfinal⟩
  | zeroWidthMatch tag offset =>
    obtain ⟨hfinal, -, -⟩ := h
    simpa [ScanError.Describes] using hfinal
  | sourceTooLarge size => exact h.elim

theorem Lexicon.exists_parts_of_error {lexicon : Lexicon} {source : String} {error : ScanError}
    (h : lexicon.scan source = .error error) :
    ∃ before after, Text.Parts source error.offset before after ∧
      error.Describes source before after := by
  by_cases hsize : source.utf8ByteSize ≤ sourceLimit
  · obtain ⟨stop, final, hcuts, hstops⟩ :=
      lexicon.scanFrom_cuts (Nat.le_refl source.toList.length) 0
    rw [scan_eq_result lexicon hsize, Scan.result] at h
    split at h
    · next error' herror =>
      cases h
      rw [herror] at hstops
      obtain ⟨happend, hstop⟩ := hcuts.covered_append
      rw [Nat.zero_add] at hstop
      have hparts := Text.parts_of_append happend
      rw [← hstop, ← hstops.offset_eq] at hparts
      exact ⟨_, _, hparts, hstops.describes source _⟩
    · cases h
  · have hlarge : source.utf8ByteSize > sourceLimit := Nat.lt_of_not_le hsize
    rw [scan, if_pos hlarge] at h
    cases h
    exact ⟨"", source, ⟨by simp, rfl⟩, rfl, rfl, hlarge⟩

theorem Lexicon.exists_parts_of_token {lexicon : Lexicon} {source : String}
    {sequence : TokenSequence} {token : Token} (hscan : lexicon.scan source = .ok sequence)
    (htoken : token ∈ sequence.tokens) :
    ∃ before rest, Text.Parts source token.span.start.toNat before (token.text ++ rest) ∧
      token.text ≠ "" := by
  obtain ⟨before, rest, hsource, hstart, hnonempty, -⟩ := exists_around_of_scan hscan htoken
  have hparts := Text.parts_of_append hsource
  rw [String.ofList_append, String.ofList_toList, hstart] at hparts
  exact ⟨_, _, hparts, hnonempty⟩

/-! ### Tokens without blanks -/

namespace Calculator

def Unspaced (text : List Char) : Prop := ∀ c ∈ text, Text.isBlank c = false

theorem isBlank_eq_false_of_visible {c : Char} (hlow : '!' ≤ c) (hhigh : c ≤ '~') :
    Text.isBlank c = false := by
  have hlow' : 33 ≤ c.toNat := Text.toNat_le_of_le hlow
  have hhigh' : c.toNat ≤ 126 := Text.toNat_le_of_le hhigh
  simp only [Text.isBlank, Text.blankRanges, Text.inRanges]
  grind

/-- All members are visible characters of one byte. -/
def Visible (members : CharSet) : Prop :=
  ∀ c, members.contains c = true → '!' ≤ c ∧ c ≤ '~'

namespace Visible

theorem range {low high : Char} (hlow : '!' ≤ low) (hhigh : high ≤ '~') :
    Visible (.range low high) := by
  intro c hc
  obtain ⟨hle, hge⟩ := le_of_contains_range hc
  exact ⟨Char.le_trans hlow hle, Char.le_trans hge hhigh⟩

theorem union {left right : CharSet} (hleft : Visible left) (hright : Visible right) :
    Visible (.union left right) := by
  intro c hc
  rcases contains_union hc with hc | hc
  · exact hleft c hc
  · exact hright c hc

variable {members : CharSet} (h : Visible members)

include h

theorem shapes_set : Shapes Unspaced (.set members) := by
  intro place next hnext
  obtain ⟨c, hpasses, hmember⟩ := Pattern.exists_of_mem_ends_set hnext
  obtain ⟨hlow, hhigh⟩ := h c hmember
  exact ⟨[c], hpasses, List.forall_mem_singleton.2 (isBlank_eq_false_of_visible hlow hhigh)⟩

theorem shapes_oneOrMore : Shapes Unspaced (oneOrMore members) := by
  intro place next hnext
  obtain ⟨taken, hpasses, -, hmembers⟩ := Pattern.exists_of_mem_ends_repeated hnext
  refine ⟨taken, hpasses, fun c hc => ?_⟩
  obtain ⟨hlow, hhigh⟩ := h c (hmembers c hc)
  exact isBlank_eq_false_of_visible hlow hhigh

end Visible

theorem shapes_seq {first second : Pattern} (hfirst : Shapes Unspaced first)
    (hsecond : Shapes Unspaced second) : Shapes Unspaced (.seq first second) := by
  intro place next hnext
  obtain ⟨middle, hmiddle, hnext⟩ := Pattern.Ends.exists_of_mem_andThen hnext
  obtain ⟨taken, hpasses, htaken⟩ := hfirst place middle hmiddle
  obtain ⟨taken', hpasses', htaken'⟩ := hsecond middle next hnext
  exact ⟨taken ++ taken', hpasses.trans hpasses', List.forall_mem_append.2 ⟨htaken, htaken'⟩⟩

theorem visible_hexMarks : Visible hexMarks :=
  .union (.range (by decide) (by decide)) (.range (by decide) (by decide))

theorem visible_hexDigits : Visible hexDigits :=
  .union (.range (by decide) (by decide))
    (.union (.range (by decide) (by decide)) (.range (by decide) (by decide)))

theorem visible_symbols : Visible symbols :=
  .union (.range (by decide) (by decide)) <| .union (.range (by decide) (by decide)) <|
    .union (.range (by decide) (by decide)) (.range (by decide) (by decide))

/-- Every definition of the calculator but the one for blanks takes texts without blanks. -/
theorem unspaced_of_scan {source : String} {sequence : TokenSequence} {token : Token}
    (hscan : standardVocabulary.lexicon.scan source = .ok sequence)
    (htoken : token ∈ sequence.tokens)
    (hblank : standardVocabulary.blank.accepts token = false) : Unspaced token.text.toList := by
  obtain ⟨definition, _, hdefinition, -⟩ :=
    Lexicon.exists_definition_of_scan size_le hscan htoken
  have hhex : Shapes Unspaced hexPattern :=
    shapes_seq (Visible.range (by decide) (by decide)).shapes_set
      (shapes_seq visible_hexMarks.shapes_set visible_hexDigits.shapes_oneOrMore)
  have hdecimal : Visible (.range '0' '9') := .range (by decide) (by decide)
  have hopening : Visible (.range '(' '(') := .range (by decide) (by decide)
  have hclosing : Visible (.range ')' ')') := .range (by decide) (by decide)
  match hid : token.id.index with
  | 0 => exact absurd (Kind.accepts_iff.2 hid) (Bool.eq_false_iff.1 hblank)
  | 1 => exact text_of_scan hscan htoken hexDefinition hhex rfl (by rw [hid]; rfl)
  | 2 =>
    exact text_of_scan hscan htoken decimalDefinition hdecimal.shapes_oneOrMore rfl
      (by rw [hid]; rfl)
  | 3 =>
    exact text_of_scan hscan htoken operatorDefinition visible_symbols.shapes_set rfl
      (by rw [hid]; rfl)
  | 4 =>
    exact text_of_scan hscan htoken openingDefinition hopening.shapes_set rfl (by rw [hid]; rfl)
  | 5 =>
    exact text_of_scan hscan htoken closingDefinition hclosing.shapes_set rfl (by rw [hid]; rfl)
  | index + 6 =>
    rw [hid] at hdefinition
    cases hdefinition

/-! ### Errors of the calculator -/

variable {source : String}

theorem evaluate_value (calculator : Calculator) (source : String) :
    (calculator.evaluate source).value =
      match (calculator.parse source).value with
      | .error error => .error error
      | .ok expr => expr.evaluate.mapError .evaluation := by
  simp only [evaluate, bind, pure]
  cases (calculator.parse source).value <;> rfl

theorem evaluate_eq_error {error : CalcError}
    (h : (standard.evaluate source).value = .error error) :
    (standard.parse source).value = .error error ∨ ∃ failure, error = .evaluation failure := by
  rw [evaluate_value] at h
  split at h
  · next hparse =>
    cases h
    exact Or.inl hparse
  · next expr _ =>
    cases hvalue : expr.evaluate with
    | ok value =>
      rw [hvalue] at h
      cases h
    | error failure =>
      rw [hvalue] at h
      cases h
      exact Or.inr ⟨failure, rfl⟩

/-- No definition of the calculator matches without taking a character. -/
theorem tokenize_ne_zeroWidthMatch {tag : String} {offset : Nat} :
    (standard.tokenize source).value ≠ .error (.zeroWidthMatch tag offset) := by
  intro h
  by_cases hsize : source.utf8ByteSize ≤ Lexicon.sourceLimit
  · rw [tokenize_eq_direct hsize] at h
    cases hdirect : Direct.scanFrom 0 source.toList with
    | ok tokens =>
      rw [hdirect] at h
      cases h
    | error error =>
      obtain ⟨stop, remaining, rfl⟩ := Direct.noMatch_of_scanFrom hdirect
      rw [hdirect] at h
      cases h
  · rw [tokenize_value, Lexicon.scan, if_pos (Nat.lt_of_not_le hsize)] at h
    cases h

/-- The text goes on with the token of the error, which has no blanks, or it ends. -/
def Names (after : String) : SyntaxError → Prop
  | .unexpectedToken _ found =>
    (∃ rest, after = found ++ rest) ∧ found ≠ "" ∧ Unspaced found.toList
  | .unexpectedEnd _ => after = ""

theorem exists_parts_of_syntaxError {tokens : TokenSequence} {error : SyntaxError}
    (htokens : (standard.tokenize source).value = .ok tokens)
    (hparse : (standard.parse source).value = .error (.grammar error)) :
    ∃ before after, Text.Parts source error.offset before after ∧ Names after error := by
  obtain ⟨result, hends, hvalue⟩ := ends_parse htokens
  rw [hvalue] at hparse
  rw [tokenize_value] at htokens
  cases hends with
  | accepts => cases hparse
  | @rejects stop hrejected =>
    obtain rfl : SyntaxError.ofPosition tokens stop = error := by
      simpa [Except.mapError] using hparse
    rcases hrejected.error_cases with ⟨token, htoken, hblank, herror, -⟩ | ⟨herror, -⟩
    · have hmem : token ∈ tokens.tokens := Array.mem_of_getElem? htoken
      obtain ⟨before, rest, hparts, hnonempty⟩ := Lexicon.exists_parts_of_token htokens hmem
      rw [herror]
      exact ⟨before, _, hparts, ⟨rest, rfl⟩, hnonempty, unspaced_of_scan htokens hmem hblank⟩
    · have hsize : tokens.sourceSize = source.utf8ByteSize := by rw [Lexicon.eq_of_scan htokens]
      rw [herror]
      exact ⟨source, "", ⟨by simp, hsize.symm⟩, rfl⟩

/-- **Error offsets can be used.** An error of evaluation has no offset. The offset of any other
error lies between two characters of the source, so its report has a column for it: the number of
characters before. There the source goes on with the text that no definition matches, or with the
token that does not fit, neither of them empty and the token without blanks; or it ends there. A
source that is too large is reported at its start. -/
theorem error_offsets_usable :
    ∃ calculator, Calculator.new = .ok calculator ∧
      ∀ source error, (calculator.evaluate source).value = .error error →
        match error.offset? with
        | none => ∃ failure, error = .evaluation failure
        | some offset =>
          ∃ before after, source = before ++ after ∧ offset = before.utf8ByteSize ∧
            offset ≤ source.utf8ByteSize ∧ String.Pos.Raw.IsValid source ⟨offset⟩ ∧
            Text.splitAtByte? offset source.toList = some (before.toList, after.toList) ∧
            Report.column source offset = before.length ∧
            match error with
            | .scan (.noMatch _ remaining) => remaining = after ∧ remaining ≠ ""
            | .scan (.zeroWidthMatch _ _) => False
            | .scan (.sourceTooLarge size) =>
              offset = 0 ∧ size = source.utf8ByteSize ∧ Lexicon.sourceLimit < size
            | .grammar (.unexpectedToken _ found) =>
              (∃ rest, after = found ++ rest) ∧ found ≠ "" ∧
                ∀ c ∈ found.toList, Text.isBlank c = false
            | .grammar (.unexpectedEnd _) => offset = source.utf8ByteSize
            | .evaluation _ => False := by
  refine ⟨standard, new_eq_standard, ?_⟩
  intro source error hevaluate
  rcases evaluate_eq_error hevaluate with hparse | ⟨failure, rfl⟩
  · cases htokens : (standard.tokenize source).value with
    | error scanError =>
      obtain rfl : CalcError.scan scanError = error := by
        simpa using (parse_value_of_error htokens).symm.trans hparse
      have hscan : standardVocabulary.lexicon.scan source = .error scanError :=
        (tokenize_value standard source).symm.trans htokens
      obtain ⟨before, after, hparts, hdescribes⟩ := Lexicon.exists_parts_of_error hscan
      refine ⟨before, after, hparts.append, hparts.size.symm, hparts.le_size, hparts.isValid,
        hparts.splitAtByte?, hparts.column, ?_⟩
      cases scanError with
      | noMatch offset remaining =>
        obtain ⟨rfl, hnonempty⟩ := hdescribes
        exact ⟨rfl, hnonempty⟩
      | zeroWidthMatch tag offset => exact tokenize_ne_zeroWidthMatch htokens
      | sourceTooLarge size => exact ⟨rfl, hdescribes.2⟩
    | ok tokens =>
      obtain ⟨result, -, hvalue⟩ := ends_parse htokens
      cases result with
      | ok expr =>
        rw [hvalue] at hparse
        cases hparse
      | error syntaxError =>
        obtain rfl : CalcError.grammar syntaxError = error := by
          simpa [Except.mapError] using hvalue.symm.trans hparse
        obtain ⟨before, after, hparts, hnames⟩ := exists_parts_of_syntaxError htokens hparse
        refine ⟨before, after, hparts.append, hparts.size.symm, hparts.le_size, hparts.isValid,
          hparts.splitAtByte?, hparts.column, ?_⟩
        cases syntaxError with
        | unexpectedToken offset found => exact hnames
        | unexpectedEnd offset =>
          obtain rfl : after = "" := hnames
          rw [hparts.append, String.append_empty]
          exact hparts.size.symm
  · exact ⟨failure, rfl⟩

/-- Behind two wide blanks of three bytes each, a parenthesis that does not fit is at offset 9 and
in column 5. -/
theorem error_offsets_usable_behind_wide_blanks :
    ∃ calculator, Calculator.new = .ok calculator ∧
      (calculator.evaluate "(1\u3000)\u3000)").value =
        .error (.grammar (.unexpectedToken 9 ")")) ∧
      Report.column "(1\u3000)\u3000)" 9 = 5 ∧
      ∃ before after, "(1\u3000)\u3000)" = before ++ after ∧ 9 = before.utf8ByteSize ∧
        String.Pos.Raw.IsValid "(1\u3000)\u3000)" ⟨9⟩ ∧ before.length = 5 ∧
        ∃ rest, after = ")" ++ rest := by
  obtain ⟨calculator, hnew, husable⟩ := error_offsets_usable
  obtain rfl : standard = calculator := Except.ok.inj (new_eq_standard.symm.trans hnew)
  have hevaluate : (standard.evaluate "(1\u3000)\u3000)").value =
      .error (.grammar (.unexpectedToken 9 ")")) := by decide +kernel
  have hcolumn : Report.column "(1\u3000)\u3000)" 9 = 5 := by decide +kernel
  obtain ⟨before, after, hsource, hsize, -, hvalid, -, hlength, ⟨rest, hafter⟩, -⟩ :=
    husable "(1\u3000)\u3000)" _ hevaluate
  exact ⟨standard, hnew, hevaluate, hcolumn, before, after, hsource, hsize, hvalid,
    hlength.symm.trans hcolumn, rest, hafter⟩

end Calculator

end TokenGrammar
