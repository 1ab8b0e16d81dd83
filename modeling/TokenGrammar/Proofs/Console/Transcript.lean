import Mathlib.Data.List.TakeWhile
import TokenGrammar.Proofs.Calculator.Standard
import TokenGrammar.Proofs.Console.Lines

/-!
# Transcripts

What a dialogue writes is put together from its lines one by one: the prompt and the reply for each
line up to the first that asks to stop. A reply depends on its own line only, so dialogues over two
inputs in a row are one dialogue over both.
-/

namespace TokenGrammar

theorem Action.text_append (first second : List Action) :
    text (first ++ second) = text first ++ text second := by
  rw [text, List.map_append, String.join_append]
  rfl

/-! ### Blank ends -/

theorem Text.trim_append_of_blank (body : List Char) {ends : List Char}
    (hends : ∀ c ∈ ends, isBlank c = true) : trim (body ++ ends) = trim body := by
  simp only [trim, List.dropWhile_append]
  split
  · next hbody =>
    have hnil : ends.dropWhile isBlank = [] := List.dropWhile_eq_nil_iff.2 hends
    rw [hnil, List.isEmpty_iff.1 hbody]
  · have hreverse : ∀ c ∈ ends.reverse, isBlank c = true :=
      fun c hc => hends c (List.mem_reverse.1 hc)
    rw [List.reverse_append, List.dropWhile_append_of_pos hreverse]

namespace Dialogue

theorem isBlank_of_isLineEnd {c : Char} (h : isLineEnd c = true) : Text.isBlank c = true := by
  simp only [isLineEnd, Bool.or_eq_true, decide_eq_true_eq] at h
  obtain rfl | rfl := h <;> decide

theorem trim_stripEnd (line : String) :
    Text.trim (stripEnd line).toList = Text.trim line.toList := by
  let ends := line.toList.reverse.takeWhile isLineEnd
  have hline : line.toList = (stripEnd line).toList ++ ends.reverse := by
    rw [stripEnd, String.toList_ofList, ← List.reverse_append, List.takeWhile_append_dropWhile,
      List.reverse_reverse]
  have hends : ∀ c ∈ ends.reverse, Text.isBlank c = true := by
    intro c hc
    have hmem : c ∈ ends := List.mem_reverse.1 hc
    exact isBlank_of_isLineEnd (List.mem_takeWhile_imp hmem)
  rw [hline, Text.trim_append_of_blank _ hends]

/-! ### Lines -/

/-- What stands between the blanks around a line. -/
def command (line : String) : String := String.ofList (Text.trim line.toList)

def stops (line : String) : Bool := command line = "exit" || command line = "quit"

variable (dialogue : Dialogue)

/-- What is done for a line that does not ask to stop. -/
def reply (line : String) : List Action :=
  if command line = "" then [] else (dialogue.answer (stripEnd line)).2

def fails (line : String) : Bool :=
  command line ≠ "" && !(dialogue.calculator.evaluate (stripEnd line)).value.isOk

theorem answer_fst (source : String) :
    (dialogue.answer source).1 = (dialogue.calculator.evaluate source).value.isOk := by
  rw [answer]
  split
  · next hvalue => rw [hvalue]; rfl
  · next hvalue => rw [hvalue]; rfl

theorem respond_eq (line : String) :
    dialogue.respond line =
      if command line = "" then (.blank, [])
      else if stops line then (.exit, [])
      else
        (.answered (dialogue.answer (stripEnd line)).1, (dialogue.answer (stripEnd line)).2) := by
  simp only [respond, trim_stripEnd, String.isEmpty_iff]
  rfl

/-! ### Steps of a dialogue -/

variable (failures : Nat) {line : String}

theorem runFrom_of_stops (hline : stops line = true) (rest : List (Option String)) :
    dialogue.runFrom failures (some line :: rest) =
      (.ok failures, dialogue.prompt ++ finish failures) := by
  have hcommand : command line ≠ "" := by
    intro hempty
    rw [stops, hempty] at hline
    exact absurd hline (by decide)
  rw [runFrom, respond_eq, if_neg hcommand, if_pos hline]

theorem runFrom_of_not_stops (hline : stops line = false) (rest : List (Option String)) :
    dialogue.runFrom failures (some line :: rest) =
      let later := dialogue.runFrom (failures + if dialogue.fails line then 1 else 0) rest
      (later.1, dialogue.prompt ++ dialogue.reply line ++ later.2) := by
  rw [runFrom, respond_eq]
  by_cases hcommand : command line = ""
  · simp [hcommand, reply, fails]
  · have hfails : dialogue.fails line = !(dialogue.answer (stripEnd line)).1 := by
      simp [fails, hcommand, answer_fst]
    rw [if_neg hcommand, if_neg (by simp [hline]), hfails, reply, if_neg hcommand]
    cases (dialogue.answer (stripEnd line)).1 <;> rfl

/-- What is done for lines in a row, none of which asks to stop. -/
def replies (lines : List String) : List Action :=
  lines.flatMap fun line => dialogue.prompt ++ dialogue.reply line

theorem text_prompt : Action.text dialogue.prompt = dialogue.options.prompt := by
  simp [Action.text, prompt]

theorem text_finish : Action.text (finish failures) = "" := by
  simp [Action.text, finish]

theorem text_line_empty : Action.text [.line ""] = "\n" := rfl

theorem text_replies (lines : List String) :
    Action.text (dialogue.replies lines) =
      String.join (lines.map fun line =>
        dialogue.options.prompt ++ Action.text (dialogue.reply line)) := by
  induction lines with
  | nil => rfl
  | cons line lines ih =>
    rw [replies, List.flatMap_cons, Action.text_append, Action.text_append, text_prompt,
      List.map_cons, String.join_cons, ← ih, replies]

theorem runFrom_append {lines : List String} (hlines : ∀ line ∈ lines, stops line = false)
    (rest : List (Option String)) :
    dialogue.runFrom failures (lines.map some ++ rest) =
      let later := dialogue.runFrom (failures + lines.countP dialogue.fails) rest
      (later.1, dialogue.replies lines ++ later.2) := by
  induction lines generalizing failures with
  | nil => rfl
  | cons line lines ih =>
    obtain ⟨hline, hlines⟩ := List.forall_mem_cons.1 hlines
    have hreplies : dialogue.replies (line :: lines) =
        dialogue.prompt ++ dialogue.reply line ++ dialogue.replies lines := List.flatMap_cons
    rw [List.map_cons, List.cons_append, dialogue.runFrom_of_not_stops failures hline,
      ih _ hlines, List.countP_cons, Nat.add_assoc, Nat.add_comm (List.countP _ _), hreplies]
    simp only [List.append_assoc]

/-- Lines behind one that asks to stop are not heard. -/
theorem runFrom_append_of_stops {lines : List String} (hlines : ∃ line ∈ lines, stops line = true)
    (rest : List (Option String)) :
    let heard := lines.takeWhile fun line => !stops line
    let failures' := failures + heard.countP dialogue.fails
    dialogue.runFrom failures (lines.map some ++ rest) =
      (.ok failures', dialogue.replies heard ++ (dialogue.prompt ++ finish failures')) := by
  intro heard failures'
  have hheard : ∀ line ∈ heard, stops line = false := by
    intro line hline
    simpa using List.mem_takeWhile_imp hline
  cases hunheard : lines.dropWhile fun line => !stops line with
  | nil =>
    obtain ⟨line, hline, hstops⟩ := hlines
    have hgoes := List.dropWhile_eq_nil_iff.1 hunheard line hline
    rw [hstops] at hgoes
    cases hgoes
  | cons line unheard =>
    have hstops : stops line = true := by
      have := List.head?_dropWhile_not (fun line => !stops line) lines
      rw [hunheard] at this
      simpa using this
    have hsplit : lines = heard ++ line :: unheard := by
      rw [← hunheard, List.takeWhile_append_dropWhile]
    rw [hsplit, List.map_append, List.append_assoc, dialogue.runFrom_append failures hheard,
      List.map_cons, List.cons_append, dialogue.runFrom_of_stops _ hstops]

/-- What is written does not depend on earlier failures. -/
theorem runFrom_eq_run (lines : List (Option String)) :
    (dialogue.runFrom failures lines).1 = (dialogue.run lines).1.map (failures + ·) ∧
      Action.text (dialogue.runFrom failures lines).2 = Action.text (dialogue.run lines).2 := by
  induction lines generalizing failures with
  | nil => exact ⟨rfl, rfl⟩
  | cons entry rest ih =>
    cases entry with
    | none => exact ⟨rfl, rfl⟩
    | some line =>
      cases hline : stops line with
      | true =>
        rw [run, dialogue.runFrom_of_stops failures hline, dialogue.runFrom_of_stops 0 hline]
        exact ⟨rfl, rfl⟩
      | false =>
        rw [run, dialogue.runFrom_of_not_stops failures hline,
          dialogue.runFrom_of_not_stops 0 hline]
        generalize (if dialogue.fails line then 1 else 0) = failed
        obtain ⟨hresult, htext⟩ := ih (failures + failed)
        obtain ⟨hresult', htext'⟩ := ih (0 + failed)
        simp only [Action.text_append]
        rw [hresult, hresult', htext, htext']
        refine ⟨?_, rfl⟩
        cases (dialogue.run rest).1 with
        | error error => rfl
        | ok more => simp [Except.map, Nat.add_assoc]

theorem run_inputLines (input : String) :
    let heard := (Text.lines input).takeWhile fun line => !stops line
    let failures := heard.countP dialogue.fails
    dialogue.run (inputLines input.toUTF8) =
      (.ok failures, dialogue.replies heard ++
        (dialogue.prompt ++ (if heard = Text.lines input then [.line ""] else []) ++
          finish failures)) := by
  intro heard failures
  rw [inputLines_toUTF8, run, ← List.append_nil (List.map _ _)]
  by_cases hstops : ∃ line ∈ Text.lines input, stops line = true
  · have hheard : heard ≠ Text.lines input := by
      intro hall
      obtain ⟨line, hline, hstops⟩ := hstops
      rw [← hall] at hline
      have hgoes := List.mem_takeWhile_imp hline
      rw [hstops] at hgoes
      cases hgoes
    rw [dialogue.runFrom_append_of_stops 0 hstops, if_neg hheard, List.append_nil, Nat.zero_add]
  · have hgoes : ∀ line ∈ Text.lines input, stops line = false := by simpa using hstops
    have hheard : heard = Text.lines input :=
      List.takeWhile_eq_self_iff.2 fun line hline => by rw [hgoes line hline]; rfl
    rw [if_pos hheard, dialogue.runFrom_append 0 hgoes, runFrom, Nat.zero_add, ← hheard]

/-- **A dialogue goes line by line.** For each line in order it writes the prompt, and behind it
nothing if the line is blank, or else the answer to the line without the line feeds and returns at
its end. It stops at the first line that asks for it, with the prompt as the last thing written, or
behind the last line with the prompt and a line feed; and it gives the number of lines until then
that are not blank and have no value. So an input that ends with a line feed and in which no line
asks to stop can be taken off in front: what it writes comes first, without the last prompt and line
feed, and failures add up. If a line in it asks to stop, then it does not matter what follows. -/
theorem dialogue_goes_line_by_line (dialogue : Dialogue) :
    (∀ input : String,
      let lines := Text.lines input
      let heard := lines.takeWhile fun line => !stops line
      let whole := dialogue.run (inputLines input.toUTF8)
      whole.1 = .ok (heard.countP dialogue.fails) ∧
        Action.text whole.2 =
          String.join (heard.map fun line =>
              dialogue.options.prompt ++ Action.text (dialogue.reply line)) ++
            dialogue.options.prompt ++ if heard = lines then "\n" else "") ∧
    ∀ (input : String) (more : ByteArray), input.toList.getLast? = some '\n' →
      let first := dialogue.run (inputLines input.toUTF8)
      let second := dialogue.run (inputLines more)
      let whole := dialogue.run (inputLines (input.toUTF8 ++ more))
      ((∀ line ∈ Text.lines input, stops line = false) →
        ∃ written failures,
          Action.text first.2 = written ++ dialogue.options.prompt ++ "\n" ∧
          first.1 = .ok failures ∧
          Action.text whole.2 = written ++ Action.text second.2 ∧
          whole.1 = second.1.map (failures + ·)) ∧
      ((∃ line ∈ Text.lines input, stops line = true) → whole = first) := by
  refine ⟨fun input => ?_, fun input more hends => ⟨fun hgoes => ?_, fun hstops => ?_⟩⟩
  · rw [run_inputLines]
    refine ⟨rfl, ?_⟩
    simp only [Action.text_append, text_replies, text_prompt, text_finish, String.append_empty,
      ← String.append_assoc]
    split
    · rw [text_line_empty]
    · rfl
  · have hlines := dialogue.runFrom_append 0 hgoes
    obtain ⟨hresult, htext⟩ := dialogue.runFrom_eq_run
      (0 + (Text.lines input).countP dialogue.fails) (inputLines more)
    rw [run, run, inputLines_append hends, inputLines_toUTF8, hlines,
      ← List.append_nil ((Text.lines input).map some), hlines]
    refine ⟨Action.text (dialogue.replies (Text.lines input)), _, ?_, rfl, ?_, hresult⟩
    · simp only [runFrom, Action.text_append, text_prompt, text_line_empty, text_finish,
        String.append_empty, String.append_assoc]
    · rw [Action.text_append, htext]
  · have hheard := dialogue.runFrom_append_of_stops 0 hstops
    rw [run, run, inputLines_append hends, inputLines_toUTF8, hheard, ← hheard [],
      List.append_nil]

/-- A line with a value and a return, a blank line, a line without value, and a line that asks to
stop before one more. -/
theorem dialogue_goes_up_to_exit :
    let dialogue : Dialogue := ⟨Calculator.standard, {}, false⟩
    let whole := dialogue.run (inputLines ("1 + 2\r\n\n".toUTF8 ++ "1 +)\n exit \n9".toUTF8))
    whole.1 = .ok 1 ∧
      Action.text whole.2 =
        "> 3\n> > error: syntax error at offset 3: unexpected `)`\n  | 1 +)\n  |    ^\n> " ∧
      ∀ more, dialogue.run (inputLines ("quit\n".toUTF8 ++ more)) =
        dialogue.run (inputLines "quit\n".toUTF8) := by
  intro dialogue whole
  obtain ⟨heach, hboth⟩ := dialogue_goes_line_by_line dialogue
  obtain ⟨hcount, htext⟩ := heach "1 + 2\r\n\n"
  obtain ⟨hcount', htext'⟩ := heach "1 +)\n exit \n9"
  obtain ⟨written, failures, hwritten, hfailures, hwhole, hresult⟩ :=
    (hboth "1 + 2\r\n\n" "1 +)\n exit \n9".toUTF8 (by decide)).1 (by decide)
  have hfirst : written ++ "> " ++ "\n" = "> 3\n> " ++ "> " ++ "\n" :=
    (hwritten.symm.trans htext).trans (by decide +kernel)
  obtain rfl : failures = 0 :=
    Except.ok.inj ((hfailures.symm.trans hcount).trans (by decide +kernel))
  refine ⟨?_, ?_, fun more => (hboth "quit\n" more (by decide)).2 (by decide)⟩
  · rw [hresult, hcount']
    decide +kernel
  · rw [String.append_left_inj, String.append_left_inj] at hfirst
    rw [hwhole, htext', hfirst]
    decide +kernel

end Dialogue

end TokenGrammar
