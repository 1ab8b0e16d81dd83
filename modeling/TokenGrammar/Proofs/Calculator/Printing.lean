import TokenGrammar.Proofs.Calculator.Correct
import TokenGrammar.Proofs.Calculator.Scanner

/-!
# Reading printed expressions back

A printed expression has parentheses around every operator, so its tokens derive an atom, and that
atom is the expression. Only a negative literal is in the way: its sign is an operator where an
operand is due, and no expression starts with one.
-/

namespace TokenGrammar

/-! ### Numerals -/

namespace Text

theorem digitValue?_of_isDigit {c : Char} (h : c.isDigit = true) :
    digitValue? 10 c = some (c.toNat - '0'.toNat) := by
  obtain ⟨hlow, hhigh⟩ := Calculator.bounds_of_isDigit h
  have hzero : '0'.toNat = 48 := rfl
  have hdigit : '0' ≤ c ∧ c ≤ '9' := ⟨UInt32.le_iff_toNat_le.2 hlow, UInt32.le_iff_toNat_le.2 hhigh⟩
  have hlt : c.toNat - '0'.toNat < 10 := by omega
  simp only [digitValue?, if_pos hdigit, if_pos hlt]

theorem digitsFrom?_eq_ofDigitChars {digits : List Char} (h : ∀ c ∈ digits, c.isDigit = true)
    (value : Nat) : digitsFrom? 10 value digits = some (Nat.ofDigitChars 10 digits value) := by
  induction digits generalizing value with
  | nil => rfl
  | cons c rest ih =>
    obtain ⟨hc, hrest⟩ := List.forall_mem_cons.1 h
    rw [digitsFrom?, digitValue?_of_isDigit hc, Nat.ofDigitChars_cons, Nat.mul_comm 10]
    exact ih hrest _

theorem isDigit_of_mem_decimal {n : Nat} : ∀ c ∈ Nat.toDigits 10 n, c.isDigit = true :=
  fun _ => Nat.isDigit_of_mem_toDigits (by decide) (Nat.le_refl 10)

theorem natural?_toDigits (n : Nat) : natural? 10 (Nat.toDigits 10 n) = some n := by
  have hdigits := digitsFrom?_eq_ofDigitChars (isDigit_of_mem_decimal (n := n)) 0
  rw [Nat.ofDigitChars_ten_toDigits] at hdigits
  rw [natural?]
  · exact hdigits
  · exact Nat.toDigits_ne_nil

end Text

namespace Calculator

theorem literal?_toDigits {n : Int64} (hn : 0 ≤ n.toInt) :
    literal? 10 (Nat.toDigits 10 n.toInt.toNat) = some n := by
  have hvalue : (n.toInt.toNat : Int) = n.toInt := Int.toNat_of_nonneg hn
  have hle : (n.toInt.toNat : Int) ≤ Int64.maxValue.toInt := by
    rw [hvalue]
    exact n.toInt_le
  rw [literal?, Text.natural?_toDigits, Option.bind_some, if_pos hle, Option.some.injEq]
  have hmax : Int64.maxValue.toInt = 2 ^ 63 - 1 := by decide
  rw [← Int64.toInt_inj, Int64.toInt_ofNat_of_lt (by omega), hvalue]

theorem render_number_of_nonneg {n : Int64} (hn : 0 ≤ n.toInt) :
    (Expr.number n).render.toList = Nat.toDigits 10 n.toInt.toNat := by
  rw [Expr.render, Int.toString_eq_repr, Int.repr_eq_if, if_pos hn, Nat.toList_repr]

theorem render_number_of_neg {n : Int64} (hn : n.toInt < 0) :
    (Expr.number n).render.toList =
      Operator.sub.symbol.toList ++ Nat.toDigits 10 (-n.toInt).toNat := by
  rw [Expr.render, Int.toString_eq_repr, Int.repr_eq_if, if_neg (by omega), String.toList_append,
    Nat.toList_repr]
  rfl

theorem render_binary (operator : Operator) (left right : Expr) :
    (Expr.binary operator left right).render.toList =
      ['('] ++ (left.render.toList ++ ([' '] ++ (operator.symbol.toList ++
        ([' '] ++ (right.render.toList ++ [')']))))) := by
  simp [Expr.render, String.toList_append]

/-! ### What the tokens of a printed expression say -/

/-- The tokens of a printed expression derive it, unless a negative literal stops them. -/
inductive Prints (e : Expr) (tokens : List Token) : Prop where
  | reads (hnonneg : ∀ n ∈ e.literals, 0 ≤ n.toInt)
      (hderives : Derives standardVocabulary .atom
        (significant standardVocabulary.blank.accepts tokens) e)
  | blocked (hnegative : ∃ n ∈ e.literals, n.toInt < 0)
      (hfollow : ∀ depth, (Phase.operand depth).follow standardVocabulary
        (significant standardVocabulary.blank.accepts tokens) = none)

section Prints

theorem significant_cons_of_terminal {token : Token} {terminal : Terminal}
    (h : standardVocabulary.terminal? token = some terminal) (tokens : List Token) :
    significant standardVocabulary.blank.accepts (token :: tokens) =
      token :: significant standardVocabulary.blank.accepts tokens := by
  have hblank : standardVocabulary.blank.accepts token = false := by
    rw [Kind.accepts, decide_eq_false_iff_not]
    intro hid
    rw [terminal?_standard, hid] at h
    cases h
  simp [significant, hblank]

theorem significant_cons_of_blank {token : Token}
    (h : standardVocabulary.blank.accepts token = true) (tokens : List Token) :
    significant standardVocabulary.blank.accepts (token :: tokens) =
      significant standardVocabulary.blank.accepts tokens := by
  simp [significant, h]

variable {opening symbol closing gap gap' : Token} {operator : Operator}
  (hopening : standardVocabulary.terminal? opening = some .opening)
  (hsymbol : standardVocabulary.terminal? symbol = some (.operator operator))
  (hclosing : standardVocabulary.terminal? closing = some .closing)
  (hgap : standardVocabulary.blank.accepts gap = true)
  (hgap' : standardVocabulary.blank.accepts gap' = true)

include hopening hsymbol hclosing hgap hgap'

theorem significant_binary (left right : List Token) :
    significant standardVocabulary.blank.accepts
        ([opening] ++ (left ++ ([gap] ++ ([symbol] ++ ([gap'] ++ (right ++ [closing])))))) =
      opening :: (significant standardVocabulary.blank.accepts left ++
        symbol :: (significant standardVocabulary.blank.accepts right ++ [closing])) := by
  simp only [List.singleton_append, significant_append, significant_cons_of_terminal hopening,
    significant_cons_of_blank hgap, significant_cons_of_terminal hsymbol,
    significant_cons_of_blank hgap', significant_cons_of_terminal hclosing]
  rfl

theorem Prints.binary {left right : List Token} {l r : Expr} (hleft : Prints l left)
    (hright : Prints r right) :
    Prints (.binary operator l r)
      ([opening] ++ (left ++ ([gap] ++ ([symbol] ++ ([gap'] ++ (right ++ [closing])))))) := by
  have hkept := significant_binary hopening hsymbol hclosing hgap hgap' left right
  cases hleft with
  | blocked hnegative hfollow =>
    obtain ⟨n, hn, hneg⟩ := hnegative
    refine .blocked ⟨n, List.mem_append_left _ hn, hneg⟩ fun depth => ?_
    rw [hkept, Phase.follow_cons, Phase.next_eq_step hopening, Phase.step, Option.bind_some,
      Phase.follow_append, hfollow (depth + 1), Option.bind_none]
  | reads hnonneg hderives =>
    cases hright with
    | blocked hnegative hfollow =>
      obtain ⟨n, hn, hneg⟩ := hnegative
      refine .blocked ⟨n, List.mem_append_right _ hn, hneg⟩ fun depth => ?_
      rw [hkept, Phase.follow_cons, Phase.next_eq_step hopening, Phase.step, Option.bind_some,
        Phase.follow_append, hderives.follow (depth + 1), Option.bind_some, Phase.follow_cons,
        Phase.next_eq_step hsymbol, Phase.step, Option.bind_some, Phase.follow_append,
        hfollow (depth + 1), Option.bind_none]
    | reads hnonneg' hderives' =>
      have hinner : Derives standardVocabulary .expr _ (.binary operator l r) :=
        .binary hderives hsymbol (.atom hderives')
      refine .reads (List.forall_mem_append.2 ⟨hnonneg, hnonneg'⟩) ?_
      rw [hkept]
      simpa using hinner.parens hopening hclosing

end Prints

/-! ### The tokens of a printed expression -/

/-- What follows a printed operand in a printed expression: a space, a closing parenthesis or
nothing. -/
def Separated (rest : List Char) : Prop := ∀ c, rest.head? = some c → c = ' ' ∨ c = ')'

theorem separated_nil : Separated [] := fun _ hc => nomatch hc

theorem separated_cons {c : Char} (h : c = ' ' ∨ c = ')') (rest : List Char) :
    Separated (c :: rest) := by
  rintro _ ⟨⟩
  exact h

/-- The text begins with a character that is not blank. -/
def Solid (text : List Char) : Prop :=
  ∃ first rest, text = first :: rest ∧ CharSet.blank.contains first = false

theorem Solid.append {text : List Char} (h : Solid text) (rest : List Char) :
    Solid (text ++ rest) := by
  obtain ⟨first, more, rfl, hfirst⟩ := h
  exact ⟨first, more ++ rest, rfl, hfirst⟩

theorem solid_symbol (operator : Operator) : Solid operator.symbol.toList := by
  cases operator <;> exact ⟨_, [], rfl, by decide⟩

theorem solid_render (e : Expr) : Solid e.render.toList := by
  cases e with
  | number n =>
    by_cases hn : 0 ≤ n.toInt
    · rw [render_number_of_nonneg hn]
      obtain ⟨first, rest, hdigits⟩ :=
        List.exists_cons_of_ne_nil (Nat.toDigits_ne_nil : Nat.toDigits 10 n.toInt.toNat ≠ [])
      have hfirst : first ∈ Nat.toDigits 10 n.toInt.toNat := by
        rw [hdigits]
        exact List.mem_cons_self
      exact ⟨first, rest, hdigits, blank_of_isDigit (Text.isDigit_of_mem_decimal first hfirst)⟩
    · rw [render_number_of_neg (Int.not_le.1 hn)]
      exact (solid_symbol .sub).append _
  | binary operator left right =>
    rw [render_binary]
    exact ⟨'(', _, rfl, by decide⟩

section Chunks

variable {rest : List Char} (offset : Nat)

theorem chunk_blank (hrest : Solid rest) :
    ∃ token, standardVocabulary.blank.accepts token = true ∧
      standardVocabulary.lexicon.Chunk offset [' '] rest [token] := by
  obtain ⟨first, more, rfl, hfirst⟩ := hrest
  have hends : ∀ c, (first :: more).head? = some c → CharSet.blank.contains c = false := by
    rintro _ ⟨⟩
    exact hfirst
  exact ⟨_, rfl, Lexicon.Chunk.token (wins_blank hends) (List.cons_ne_nil _ _)⟩

theorem chunk_decimal (hrest : Separated rest) (n : Nat) :
    ∃ token, standardVocabulary.terminal? token =
        (literal? 10 (Nat.toDigits 10 n)).map .number ∧
      standardVocabulary.lexicon.Chunk offset (Nat.toDigits 10 n) rest [token] := by
  have hends : ∀ c, rest.head? = some c → c.isDigit = false ∧ hexMarks.contains c = false := by
    intro c hc
    rcases hrest c hc with rfl | rfl
    · decide
    · decide
  have hnonempty : Nat.toDigits 10 n ≠ [] := Nat.toDigits_ne_nil
  have hwins := wins_decimal hnonempty Text.isDigit_of_mem_decimal hends
  refine ⟨_, ?_, Lexicon.Chunk.token hwins hnonempty⟩
  change (literal? 10 (String.ofList (Nat.toDigits 10 n)).toList).map Terminal.number = _
  rw [String.toList_ofList]

theorem chunk_symbol (operator : Operator) (rest : List Char) :
    ∃ token, standardVocabulary.terminal? token = some (.operator operator) ∧
      standardVocabulary.lexicon.Chunk offset operator.symbol.toList rest [token] := by
  have hnonempty : operator.symbol.toList ≠ [] := by cases operator <;> decide
  refine ⟨_, ?_, Lexicon.Chunk.token (wins_symbol operator rest) hnonempty⟩
  change (Operator.ofSymbol? (String.ofList operator.symbol.toList)).map Terminal.operator = _
  rw [String.ofList_toList, Operator.ofSymbol?_symbol, Option.map_some]

theorem chunk_opening (rest : List Char) :
    ∃ token, standardVocabulary.terminal? token = some .opening ∧
      standardVocabulary.lexicon.Chunk offset ['('] rest [token] :=
  ⟨_, rfl, Lexicon.Chunk.token (wins_opening rest) (List.cons_ne_nil _ _)⟩

theorem chunk_closing (rest : List Char) :
    ∃ token, standardVocabulary.terminal? token = some .closing ∧
      standardVocabulary.lexicon.Chunk offset [')'] rest [token] :=
  ⟨_, rfl, Lexicon.Chunk.token (wins_closing rest) (List.cons_ne_nil _ _)⟩

end Chunks

/-- **The text of an expression is cut** as it was put together. -/
theorem chunk_render (e : Expr) {rest : List Char} (hrest : Separated rest) (offset : Nat) :
    ∃ tokens, Prints e tokens ∧
      standardVocabulary.lexicon.Chunk offset e.render.toList rest tokens := by
  induction e generalizing rest offset with
  | number n =>
    by_cases hn : 0 ≤ n.toInt
    · obtain ⟨token, hterminal, hchunk⟩ := chunk_decimal offset hrest n.toInt.toNat
      rw [literal?_toDigits hn, Option.map_some] at hterminal
      rw [render_number_of_nonneg hn]
      refine ⟨[token], .reads (List.forall_mem_singleton.2 hn) ?_, hchunk⟩
      rw [significant_cons_of_terminal hterminal]
      exact .number (.literal hterminal)
    · -- The digits behind the sign need not be a literal: those of the least number are too large.
      have hneg : n.toInt < 0 := Int.not_le.1 hn
      obtain ⟨sign, hsign, hchunk⟩ := chunk_symbol offset .sub _
      obtain ⟨digits, -, hchunk'⟩ := chunk_decimal _ hrest (-n.toInt).toNat
      rw [render_number_of_neg hneg]
      refine ⟨[sign] ++ [digits], .blocked ⟨n, List.mem_singleton_self n, hneg⟩ fun depth => ?_,
        hchunk.append hchunk'⟩
      rw [List.singleton_append, significant_cons_of_terminal hsign, Phase.follow_cons,
        Phase.next_eq_step hsign]
      rfl
  | binary operator left right ihLeft ihRight =>
    rw [render_binary]
    obtain ⟨opening, hopening, hchunk⟩ := chunk_opening offset _
    obtain ⟨leftTokens, hleft, hchunkLeft⟩ := ihLeft (separated_cons (Or.inl rfl) _) _
    obtain ⟨gap, hgap, hchunkGap⟩ := chunk_blank _ (((solid_symbol operator).append _).append rest)
    obtain ⟨symbol, hsymbol, hchunkSymbol⟩ := chunk_symbol _ operator _
    obtain ⟨gap', hgap', hchunkGap'⟩ := chunk_blank _ (((solid_render right).append _).append rest)
    obtain ⟨rightTokens, hright, hchunkRight⟩ := ihRight (separated_cons (Or.inr rfl) rest) _
    obtain ⟨closing, hclosing, hchunkClosing⟩ := chunk_closing _ rest
    refine ⟨_, .binary hopening hsymbol hclosing hgap hgap' hleft hright, ?_⟩
    exact hchunk.append (hchunkLeft.append (hchunkGap.append (hchunkSymbol.append
      (hchunkGap'.append (hchunkRight.append hchunkClosing)))))

/-! ### Reading back -/

section Render

variable {e : Expr} (hsize : e.render.utf8ByteSize ≤ Lexicon.sourceLimit)

include hsize

theorem tokenize_render :
    ∃ tokens, Prints e tokens.tokens.toList ∧ (standard.tokenize e.render).value = .ok tokens := by
  obtain ⟨tokens, hprints, hchunk⟩ := chunk_render e separated_nil 0
  rw [tokenize_value]
  exact ⟨_, hprints, hchunk.scan hsize⟩

theorem parse_render_of_nonneg (hnonneg : ∀ n ∈ e.literals, 0 ≤ n.toInt) :
    (standard.parse e.render).value = .ok e := by
  obtain ⟨tokens, hprints, htokens⟩ := tokenize_render hsize
  rw [parse_eq_ok_iff]
  refine ⟨tokens, htokens, ?_⟩
  cases hprints with
  | reads _ hderives => exact hderives.atom
  | blocked hnegative =>
    obtain ⟨n, hn, hneg⟩ := hnegative
    exact absurd (hnonneg n hn) (Int.not_le.2 hneg)

theorem parse_render_of_negative (hnegative : ∃ n ∈ e.literals, n.toInt < 0) :
    ∃ error, (standard.parse e.render).value = .error (.grammar error) := by
  obtain ⟨tokens, hprints, htokens⟩ := tokenize_render hsize
  obtain ⟨result, hends, hvalue⟩ := ends_parse htokens
  rw [hvalue]
  cases hends with
  | rejects => exact ⟨_, rfl⟩
  | accepts hderives =>
    have hfollow := hderives.follow 0
    rw [between_all] at hfollow
    cases hprints with
    | reads hnonneg =>
      obtain ⟨n, hn, hneg⟩ := hnegative
      exact absurd (hnonneg n hn) (Int.not_le.2 hneg)
    | blocked _ hblocked =>
      rw [hblocked 0] at hfollow
      cases hfollow

end Render

/-- **Printing and reading are inverse.** The text of an expression, unless it is too long, is read
as that expression if no literal is negative, and is a syntax error otherwise. Every expression that
is read from a source can be printed and read again. -/
theorem parse_render :
    ∃ calculator, Calculator.new = .ok calculator ∧
      (∀ e : Expr, e.render.utf8ByteSize ≤ Lexicon.sourceLimit →
        ((∀ n ∈ e.literals, 0 ≤ n.toInt) → (calculator.parse e.render).value = .ok e) ∧
        ((∃ n ∈ e.literals, n.toInt < 0) →
          ∃ error, (calculator.parse e.render).value = .error (.grammar error))) ∧
      ∀ source e, (calculator.parse source).value = .ok e →
        e.render.utf8ByteSize ≤ Lexicon.sourceLimit →
          (calculator.parse e.render).value = .ok e := by
  refine ⟨standard, new_eq_standard, ?_, ?_⟩
  · intro e hsize
    exact ⟨parse_render_of_nonneg hsize, parse_render_of_negative hsize⟩
  · intro source e hparse hsize
    obtain ⟨tokens, -, hderives⟩ := (parse_eq_ok_iff source e).1 hparse
    exact parse_render_of_nonneg hsize hderives.literals_nonneg

example : (Expr.binary .sub (.number 1) (.binary .mul (.number (-2)) (.number 3))).render =
    "(1 - (-2 * 3))" := by
  decide +kernel

end Calculator

end TokenGrammar
