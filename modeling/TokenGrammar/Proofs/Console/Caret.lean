import TokenGrammar.Proofs.Calculator.Offsets
import TokenGrammar.Proofs.Console.Transcript

/-!
# Where the caret is

A report has the source behind a gutter and, on a line of its own, a caret behind the same gutter
and a blank for each character before the offset. So the caret is below the character at the offset
if the source is one line, as it is in a dialogue, but not if there is a line feed in the source.
-/

namespace TokenGrammar

namespace Text

/-! ### Rows and columns

A place in a text is given by what stands before it.
-/

def row (text : String) : Nat := text.toList.count '\n'

def column (text : String) : Nat := (text.toList.reverse.takeWhile (· ≠ '\n')).length

/-- The place behind the second text is on the next row, in the same column. -/
def Below (upper lower : String) : Prop := row lower = row upper + 1 ∧ column lower = column upper

instance (upper lower : String) : Decidable (Below upper lower) :=
  inferInstanceAs (Decidable (_ ∧ _))

theorem row_append (text more : String) : row (text ++ more) = row text + row more := by
  rw [row, String.toList_append, List.count_append]
  rfl

theorem row_eq_zero_iff {text : String} : row text = 0 ↔ '\n' ∉ text.toList :=
  List.count_eq_zero

theorem column_le_length (text : String) : column text ≤ text.length := by
  have hle := (List.takeWhile_sublist (· ≠ '\n') (l := text.toList.reverse)).length_le
  rwa [List.length_reverse, String.length_toList] at hle

theorem column_append_of_not_mem (text : String) {more : String} (h : '\n' ∉ more.toList) :
    column (text ++ more) = column text + more.length := by
  have hmore : ∀ c ∈ more.toList.reverse, decide (c ≠ '\n') = true := by
    intro c hc
    refine decide_eq_true fun hfeed => h ?_
    rw [← hfeed]
    exact List.mem_reverse.1 hc
  rw [column, String.toList_append, List.reverse_append, List.takeWhile_append_of_pos hmore,
    List.length_append, List.length_reverse, String.length_toList, Nat.add_comm]
  rfl

theorem column_append_of_mem (text : String) {more : String} (h : '\n' ∈ more.toList) :
    column (text ++ more) = column more := by
  have hmore : ¬(more.toList.reverse.takeWhile (· ≠ '\n')).length =
      more.toList.reverse.length := by
    intro hlength
    have hall := List.takeWhile_eq_self_iff.1
      ((List.takeWhile_prefix _).eq_of_length hlength) '\n' (List.mem_reverse.2 h)
    exact of_decide_eq_true hall rfl
  rw [column, String.toList_append, List.reverse_append, List.takeWhile_append, if_neg hmore]
  rfl

end Text

/-! ### Reports -/

namespace Report

theorem length_spaces (count : Nat) : (spaces count).length = count := by
  rw [spaces, String.length_ofList, List.length_replicate]

theorem not_mem_spaces (count : Nat) : '\n' ∉ (spaces count).toList := by
  rw [spaces, String.toList_ofList]
  intro hmem
  exact absurd (List.eq_of_mem_replicate hmem) (by decide)

/-- The caret is on the right row if no line feed follows the offset, and in the right column if
none precedes it. -/
theorem below_caret_iff (header before after : String) :
    let opening := header ++ "\n  | "
    Text.Below (opening ++ before)
        (opening ++ (before ++ after) ++ "\n  | " ++ spaces before.length) ↔
      '\n' ∉ (before ++ after).toList := by
  intro opening
  have hopening : ∀ text : String, Text.column (text ++ "\n  | ") = 4 := fun text =>
    (Text.column_append_of_mem text (by decide)).trans (by decide)
  have hcaret : Text.column (opening ++ (before ++ after) ++ "\n  | " ++ spaces before.length) =
      4 + before.length := by
    rw [Text.column_append_of_not_mem _ (not_mem_spaces _), hopening, length_spaces]
  have hcolumn : Text.column (opening ++ before) = 4 + before.length ↔ '\n' ∉ before.toList := by
    constructor
    · intro heq hfeed
      rw [Text.column_append_of_mem opening hfeed] at heq
      have hle := Text.column_le_length before
      omega
    · intro hfeed
      rw [Text.column_append_of_not_mem opening hfeed, hopening]
  have hrow : Text.row (opening ++ (before ++ after) ++ "\n  | " ++ spaces before.length) =
      Text.row (opening ++ before) + Text.row after + 1 := by
    have hspaces : Text.row (spaces before.length) = 0 :=
      Text.row_eq_zero_iff.2 (not_mem_spaces _)
    have hgutter : Text.row "\n  | " = 1 := by decide
    simp only [Text.row_append, hspaces, hgutter]
    omega
  have hafter : Text.row after = 0 ↔ '\n' ∉ after.toList := Text.row_eq_zero_iff
  rw [Text.Below, hcaret, hrow, eq_comm (a := 4 + before.length), hcolumn, String.toList_append,
    List.mem_append, not_or, and_comm, ← hafter]
  refine and_congr_right fun _ => ?_
  omega

theorem text_eq {source before after : String} {offset : Nat} {error : CalcError}
    (hoffset : error.offset? = some offset) (hparts : Text.Parts source offset before after) :
    text false source error =
      "error: " ++ error.message ++ "\n  | " ++ source ++ "\n  | " ++ spaces before.length ++
        "^\n" := by
  have hheader : "error: " = "error" ++ ": " := rfl
  have hgutter : "\n  | " = "\n" ++ ("  |" ++ " ") := rfl
  have hcaret : "^\n" = "^" ++ "\n" := rfl
  rw [text, hoffset, hheader, hgutter, hcaret]
  simp only [header, sourceLine, caretLine, gutter, paint, Bool.false_eq_true, if_false,
    hparts.column, String.append_assoc]

end Report

namespace Calculator

theorem exists_parts_of_offset? {source : String} {error : CalcError} {offset : Nat}
    (hevaluate : (standard.evaluate source).value = .error error)
    (hoffset : error.offset? = some offset) :
    ∃ before after, Text.Parts source offset before after := by
  rcases evaluate_eq_error hevaluate with hparse | ⟨failure, rfl⟩
  · cases htokens : (standard.tokenize source).value with
    | error scanError =>
      obtain rfl : CalcError.scan scanError = error := by
        simpa using (parse_value_of_error htokens).symm.trans hparse
      obtain rfl : scanError.offset = offset := Option.some.inj hoffset
      have hscan : standardVocabulary.lexicon.scan source = .error scanError :=
        (tokenize_value standard source).symm.trans htokens
      obtain ⟨before, after, hparts, -⟩ := Lexicon.exists_parts_of_error hscan
      exact ⟨before, after, hparts⟩
    | ok tokens =>
      obtain ⟨result, -, hvalue⟩ := ends_parse htokens
      cases result with
      | ok expr =>
        rw [hvalue] at hparse
        cases hparse
      | error syntaxError =>
        obtain rfl : CalcError.grammar syntaxError = error := by
          simpa [Except.mapError] using hvalue.symm.trans hparse
        obtain rfl : syntaxError.offset = offset := Option.some.inj hoffset
        obtain ⟨before, after, hparts, -⟩ := exists_parts_of_syntaxError htokens hparse
        exact ⟨before, after, hparts⟩
  · cases hoffset

end Calculator

namespace Dialogue

theorem text_events (events : List Event) : Action.text (events.map .event) = "" := by
  induction events with
  | nil => rfl
  | cons event events ih =>
    rw [List.map_cons, ← List.singleton_append, Action.text_append, ih]
    rfl

theorem text_answer_of_error {dialogue : Dialogue} {source : String} {error : CalcError}
    (hcolors : dialogue.colors = false)
    (hevaluate : (dialogue.calculator.evaluate source).value = .error error) :
    Action.text (dialogue.answer source).2 =
      Action.text (dialogue.listTokens source) ++ Report.text false source error := by
  have hreport : Action.text (Report.actions false source error) =
      Report.text false source error := by
    simp [Action.text, Report.actions]
  rw [answer, hevaluate, hcolors]
  simp only [Action.text_append, text_events, hreport, String.append_empty]

/-- The lines that a dialogue answers have no line feed in them. -/
theorem not_mem_stripEnd {input line : String} (hline : line ∈ Text.lines input) :
    '\n' ∉ (stripEnd line).toList := by
  obtain ⟨body, hbody, hends⟩ := Text.exists_body_of_mem_lines hline
  have hstrip : (stripEnd line).toList = (body.reverse.dropWhile isLineEnd).reverse := by
    rw [stripEnd, String.toList_ofList]
    rcases hends with hends | hends
    · rw [hends]
    · rw [hends, List.reverse_append, List.reverse_singleton, List.singleton_append,
        List.dropWhile_cons_of_pos (by decide)]
  intro hfeed
  rw [hstrip, List.mem_reverse] at hfeed
  exact hbody (List.mem_reverse.1 ((List.dropWhile_sublist isLineEnd).mem hfeed))

/-- **The caret is below the character if the source is one line.** Let the source have an error
with an offset, and let there be no colours. Then the report ends with the source, behind a gutter,
and the caret. The caret is on the row below the character at the offset, or below the place behind
the last character if the source ends there, and in the same column, if and only if there is no line
feed in the source. So it always is if the source is a line that a dialogue answers. -/
theorem caret_below_character_iff (dialogue : Dialogue) (source : String) (error : CalcError)
    (offset : Nat) (hnew : Calculator.new = .ok dialogue.calculator)
    (hcolors : dialogue.colors = false)
    (hevaluate : (dialogue.calculator.evaluate source).value = .error error)
    (hoffset : error.offset? = some offset) :
    ∃ before after, source = before ++ after ∧ before.utf8ByteSize = offset ∧
      let opening := Action.text (dialogue.listTokens source) ++ "error: " ++ error.message ++
        "\n  | "
      let upToCaret := opening ++ source ++ "\n  | " ++ Report.spaces before.length
      Action.text (dialogue.answer source).2 = upToCaret ++ "^\n" ∧
        (Text.Below (opening ++ before) upToCaret ↔ '\n' ∉ source.toList) ∧
        ((∃ input, ∃ line ∈ Text.lines input, source = stripEnd line) →
          Text.Below (opening ++ before) upToCaret) := by
  have hcalculator : Calculator.standard = dialogue.calculator :=
    Except.ok.inj (Calculator.new_eq_standard.symm.trans hnew)
  have hstandard : (Calculator.standard.evaluate source).value = .error error := by
    rw [hcalculator, hevaluate]
  obtain ⟨before, after, hparts⟩ := Calculator.exists_parts_of_offset? hstandard hoffset
  have hbelow := Report.below_caret_iff
    (Action.text (dialogue.listTokens source) ++ "error: " ++ error.message) before after
  rw [← hparts.append] at hbelow
  refine ⟨before, after, hparts.append, hparts.size, ?_, hbelow, ?_⟩
  · rw [text_answer_of_error hcolors hevaluate, Report.text_eq hoffset hparts]
    simp only [String.append_assoc]
  · rintro ⟨input, line, hline, rfl⟩
    exact hbelow.2 (not_mem_stripEnd hline)

/-- A blank of two bytes before the offset takes one column. -/
theorem caret_below_closing_parenthesis :
    let dialogue : Dialogue := ⟨Calculator.standard, { color := .never }, true⟩
    let opening := "error: syntax error at offset 4: unexpected `)`\n  | "
    (Calculator.standard.evaluate "1\u00a0+)").value =
        .error (.grammar (.unexpectedToken 4 ")")) ∧
      Action.text (dialogue.answer "1\u00a0+)").2 = opening ++ "1\u00a0+)\n  |    ^\n" ∧
      Text.Below (opening ++ "1\u00a0+") (opening ++ "1\u00a0+)\n  |    ") := by
  intro dialogue opening
  have hevaluate : (Calculator.standard.evaluate "1\u00a0+)").value =
      .error (.grammar (.unexpectedToken 4 ")")) := by decide +kernel
  obtain ⟨before, after, happend, hsize, htext, hbelow, -⟩ :=
    caret_below_character_iff dialogue "1\u00a0+)" _ 4 Calculator.new_eq_standard rfl hevaluate rfl
  have hplace : Text.splitAtByte? 4 "1\u00a0+)".toList = some ("1\u00a0+".toList, [')']) := by
    decide
  obtain rfl : before = "1\u00a0+" := by
    have hparts := hplace.symm.trans (Text.Parts.mk happend hsize).splitAtByte?
    exact String.toList_inj.1 (congrArg Prod.fst (Option.some.inj hparts)).symm
  exact ⟨hevaluate, htext, hbelow.2 (by decide)⟩

/-- Behind a line feed the caret is off to the right: it is in column 10, and the parenthesis is in
column 4 of the line above. -/
theorem caret_right_of_closing_parenthesis :
    let dialogue : Dialogue := ⟨Calculator.standard, { color := .never }, false⟩
    let opening := "error: syntax error at offset 6: unexpected `)`\n  | "
    (Calculator.standard.evaluate "1\n    )").value =
        .error (.grammar (.unexpectedToken 6 ")")) ∧
      "1\n    ".utf8ByteSize = 6 ∧
      Action.text (dialogue.answer "1\n    )").2 = opening ++ "1\n    )\n  |       ^\n" ∧
      Text.column (opening ++ "1\n    ") = 4 ∧
      Text.column (opening ++ "1\n    )\n  |       ") = 10 ∧
      ¬Text.Below (opening ++ "1\n    ") (opening ++ "1\n    )\n  |       ") := by
  decide +kernel

end Dialogue

end TokenGrammar
