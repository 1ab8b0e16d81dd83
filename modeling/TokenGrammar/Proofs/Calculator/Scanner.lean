import TokenGrammar.Proofs.Calculator.Tokens
import TokenGrammar.Proofs.Pattern.Greedy

/-!
# Which token comes next

How many characters of a text each of the calculator's definitions takes. The first of them that
takes any gives the next token.
-/

namespace TokenGrammar

namespace Calculator

open Pattern (runLength headLength consLength)

def hexLength : List Char → Nat :=
  consLength (.range '0' '0') (consLength hexMarks (runLength hexDigits))

/-- How many characters each definition takes, in their order; zero where it does not match. -/
def lengths (text : List Char) : List Nat :=
  [runLength CharSet.blank text, hexLength text, runLength (.range '0' '9') text,
    headLength symbols text, headLength (.range '(' '(') text, headLength (.range ')' ')') text]

theorem match?_eq_of_measures {definition : Definition} {pattern : Pattern}
    {length : List Char → Nat} (hmatcher : definition.matcher = (atStart pattern).matcher)
    (h : pattern.Measures length) (text : List Char) :
    definition.match? text =
      if length text = 0 then none else some (Text.byteSize (text.take (length text))) := by
  have hstop : ((atStart pattern).find? text).map Pattern.Found.stop = _ := h.find? text
  rw [Definition.match?, hmatcher, Pattern.map_stop_find?_matcher, hstop]
  split <;> rfl

theorem match?_eq_lengths {index : Nat} {definition : Definition}
    (hdefinition : standardVocabulary.lexicon.definitions[index]? = some definition)
    (text : List Char) :
    ∃ length, (lengths text)[index]? = some length ∧
      definition.match? text =
        if length = 0 then none else some (Text.byteSize (text.take length)) := by
  have hhex := (Pattern.measures_repeated hexDigits).cons hexMarks |>.cons (.range '0' '0')
  match index with
  | 0 =>
    obtain rfl : blankDefinition = definition := Option.some.inj hdefinition
    exact ⟨_, rfl, match?_eq_of_measures rfl (Pattern.measures_repeated CharSet.blank) text⟩
  | 1 =>
    obtain rfl : hexDefinition = definition := Option.some.inj hdefinition
    exact ⟨_, rfl, match?_eq_of_measures rfl hhex text⟩
  | 2 =>
    obtain rfl : decimalDefinition = definition := Option.some.inj hdefinition
    exact ⟨_, rfl, match?_eq_of_measures rfl (Pattern.measures_repeated (.range '0' '9')) text⟩
  | 3 =>
    obtain rfl : operatorDefinition = definition := Option.some.inj hdefinition
    exact ⟨_, rfl, match?_eq_of_measures rfl (Pattern.measures_set symbols) text⟩
  | 4 =>
    obtain rfl : openingDefinition = definition := Option.some.inj hdefinition
    exact ⟨_, rfl, match?_eq_of_measures rfl (Pattern.measures_set (.range '(' '(')) text⟩
  | 5 =>
    obtain rfl : closingDefinition = definition := Option.some.inj hdefinition
    exact ⟨_, rfl, match?_eq_of_measures rfl (Pattern.measures_set (.range ')' ')')) text⟩
  | index + 6 => cases hdefinition

/-- **The first definition that takes a character wins.** -/
theorem wins_of_lengths (index : Nat) {definition : Definition} {taken rest : List Char}
    {more : List Nat}
    (hdefinition : standardVocabulary.lexicon.definitions[index]? = some definition)
    (hlengths : lengths (taken ++ rest) = List.replicate index 0 ++ taken.length :: more)
    (hnonempty : taken ≠ []) :
    standardVocabulary.lexicon.Wins (taken ++ rest)
      ⟨.ofIndex index, definition.tag, Text.byteSize taken⟩ := by
  refine .first hdefinition ?_ fun earlier other hlt hother => ?_
  · obtain ⟨length, hlength, hmatch⟩ := match?_eq_lengths hdefinition (taken ++ rest)
    obtain rfl : taken.length = length := by simpa [hlengths] using hlength
    rwa [if_neg (mt List.length_eq_zero_iff.1 hnonempty), List.take_left] at hmatch
  · obtain ⟨length, hlength, hmatch⟩ := match?_eq_lengths hother (taken ++ rest)
    obtain rfl : 0 = length := by
      rw [hlengths, List.getElem?_append_left (by simpa using hlt)] at hlength
      simpa [hlt] using hlength
    rwa [if_pos rfl] at hmatch

/-! ### By what a text begins with -/

variable {rest : List Char}

theorem wins_blank (hrest : ∀ c, rest.head? = some c → CharSet.blank.contains c = false) :
    standardVocabulary.lexicon.Wins ([' '] ++ rest) ⟨0, "WS", Text.byteSize [' ']⟩ := by
  have hspace : ∀ c ∈ [' '], CharSet.blank.contains c = true := List.forall_mem_singleton.2 rfl
  have hlength : runLength CharSet.blank ([' '] ++ rest) = 1 :=
    Pattern.runLength_append hspace hrest
  exact wins_of_lengths 0 rfl (congrArg (· :: _) hlength) (List.cons_ne_nil _ _)

theorem contains_decimal (c : Char) : (CharSet.range '0' '9').contains c = c.isDigit := by
  simp [CharSet.contains, Char.isDigit, Char.le_def]

theorem bounds_of_isDigit {c : Char} (h : c.isDigit = true) : 48 ≤ c.toNat ∧ c.toNat ≤ 57 := by
  rw [Char.isDigit] at h
  simpa [UInt32.le_iff_toNat_le] using h

theorem blank_of_isDigit {c : Char} (h : c.isDigit = true) :
    CharSet.blank.contains c = false := by
  obtain ⟨hlow, hhigh⟩ := bounds_of_isDigit h
  simp only [CharSet.blank, CharSet.contains, Text.blankRanges, Text.inRanges]
  grind

theorem hexMarks_of_isDigit {c : Char} (h : c.isDigit = true) : hexMarks.contains c = false := by
  rw [Bool.eq_false_iff]
  intro hmark
  rcases contains_union hmark with hx | hx
  · rw [eq_of_contains_range hx] at h
    exact absurd h (by decide)
  · rw [eq_of_contains_range hx] at h
    exact absurd h (by decide)

/-- Digits up to what is neither a digit nor the mark of a base. -/
theorem wins_decimal {digits : List Char} (hnonempty : digits ≠ [])
    (hdigits : ∀ c ∈ digits, c.isDigit = true)
    (hrest : ∀ c, rest.head? = some c → c.isDigit = false ∧ hexMarks.contains c = false) :
    standardVocabulary.lexicon.Wins (digits ++ rest) ⟨2, "INT", Text.byteSize digits⟩ := by
  have hdecimal : runLength (.range '0' '9') (digits ++ rest) = digits.length := by
    refine Pattern.runLength_append (fun c hc => ?_) fun c hc => ?_
    · rw [contains_decimal, hdigits c hc]
    · rw [contains_decimal, (hrest c hc).1]
  obtain ⟨first, digits, rfl⟩ := List.exists_cons_of_ne_nil hnonempty
  obtain ⟨hfirst, hdigits⟩ := List.forall_mem_cons.1 hdigits
  have hblank : runLength CharSet.blank (first :: digits ++ rest) = 0 :=
    Pattern.runLength_of_not_member (blank_of_isDigit hfirst) _
  have hunmarked : ∀ c, (digits ++ rest).head? = some c → hexMarks.contains c = false := by
    intro c hc
    cases digits with
    | nil => exact (hrest c hc).2
    | cons second digits =>
      obtain rfl : second = c := Option.some.inj hc
      exact hexMarks_of_isDigit (hdigits second List.mem_cons_self)
  have hhex : hexLength (first :: digits ++ rest) = 0 :=
    Pattern.consLength_of_rest (Pattern.consLength_of_head hunmarked)
  have hlengths : lengths (first :: digits ++ rest) =
      0 :: 0 :: (first :: digits).length :: (lengths (first :: digits ++ rest)).drop 3 := by
    rw [lengths, hblank, hhex, hdecimal]
    rfl
  exact wins_of_lengths 2 rfl hlengths hnonempty

theorem wins_symbol (operator : Operator) (rest : List Char) :
    standardVocabulary.lexicon.Wins (operator.symbol.toList ++ rest)
      ⟨3, "OP", Text.byteSize operator.symbol.toList⟩ := by
  have hlengths : lengths (operator.symbol.toList ++ rest) =
      List.replicate 3 0 ++ operator.symbol.toList.length :: [0, 0] := by
    cases operator <;> rfl
  exact wins_of_lengths 3 rfl hlengths (by cases operator <;> decide)

theorem wins_opening (rest : List Char) :
    standardVocabulary.lexicon.Wins (['('] ++ rest) ⟨4, "LPAREN", Text.byteSize ['(']⟩ := by
  have hlengths : lengths (['('] ++ rest) = [0, 0, 0, 0, 1, 0] := rfl
  exact wins_of_lengths 4 rfl hlengths (List.cons_ne_nil _ _)

theorem wins_closing (rest : List Char) :
    standardVocabulary.lexicon.Wins ([')'] ++ rest) ⟨5, "RPAREN", Text.byteSize [')']⟩ := by
  have hlengths : lengths ([')'] ++ rest) = [0, 0, 0, 0, 0, 1] := rfl
  exact wins_of_lengths 5 rfl hlengths (List.cons_ne_nil _ _)

end Calculator

end TokenGrammar
