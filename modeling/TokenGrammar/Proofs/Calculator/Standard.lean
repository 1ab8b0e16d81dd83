import TokenGrammar.Calculator.Basic

/-!
# The calculator that is made

The patterns of the calculator written out, and the calculator that they and its rules make.
-/

namespace TokenGrammar

theorem Definition.make_eq_ok (tag : String) {pattern : String} {body : Pattern}
    (hread : Pattern.read? .standard (bound pattern) = some body)
    (hempty : body.find? [] = none) :
    make .standard tag pattern = .ok ⟨tag, pattern, body.matcher⟩ := by
  have hengine : Engine.standard (bound pattern) = some body.matcher := by
    rw [Engine.standard, Pattern.engine, hread, Option.map_some]
  have hmatcher : body.matcher.find? [] = none := by
    simp only [Pattern.matcher, hempty, Option.map_none]
  unfold make
  rw [hengine]
  simp only [hmatcher]
  rfl

theorem Lexicon.tracedDefine_value {α : Type} {tag pattern : String} {definition : Definition}
    (hmake : Definition.make .standard tag pattern = .ok definition) (lexicon : Lexicon)
    (read : String → Option α) :
    (lexicon.tracedDefine tag pattern read).value =
      .ok (⟨.ofIndex lexicon.size, tag, read⟩, ⟨lexicon.definitions ++ [definition]⟩) := by
  have hdefine : lexicon.define tag pattern read =
      .ok (⟨.ofIndex lexicon.size, tag, read⟩, ⟨lexicon.definitions ++ [definition]⟩) := by
    rw [define, hmake]
    rfl
  simp only [tracedDefine, hdefine]
  rfl

theorem Traced.bind_value_of_ok {ε α β : Type} {step : Traced (Except ε α)} {value : α}
    (h : step.value = .ok value) (next : α → ExceptT ε Traced β) :
    (ExceptT.mk step >>= next).run.value = (next value).run.value := by
  simp only [ExceptT.run, bind, ExceptT.bind, ExceptT.mk, ExceptT.bindCont, h]

namespace Calculator

/-! ### Definitions -/

def atStart (pattern : Pattern) : Pattern := .seq (.anchor .textStart) pattern

def oneOrMore (members : CharSet) : Pattern := .repeated (.set members) 1 none true

def hexDigits : CharSet := .union (.range '0' '9') (.union (.range 'a' 'f') (.range 'A' 'F'))

def hexMarks : CharSet := .union (.range 'x' 'x') (.range 'X' 'X')

def symbols : CharSet :=
  .union (.range '-' '-') (.union (.range '+' '+') (.union (.range '*' '*') (.range '/' '/')))

def blankDefinition : Definition := ⟨"WS", "\\s+", (atStart (oneOrMore CharSet.blank)).matcher⟩

def hexPattern : Pattern :=
  .seq (.set (.range '0' '0')) (.seq (.set hexMarks) (oneOrMore hexDigits))

def hexDefinition : Definition := ⟨"HEX", "0[xX][0-9a-fA-F]+", (atStart hexPattern).matcher⟩

def decimalDefinition : Definition :=
  ⟨"INT", "[0-9]+", (atStart (oneOrMore (.range '0' '9'))).matcher⟩

def operatorDefinition : Definition := ⟨"OP", "[-+*/]", (atStart (.set symbols)).matcher⟩

def openingDefinition : Definition := ⟨"LPAREN", "\\(", (atStart (.set (.range '(' '('))).matcher⟩

def closingDefinition : Definition := ⟨"RPAREN", "\\)", (atStart (.set (.range ')' ')'))).matcher⟩

/-! ### The calculator -/

def standardVocabulary : Vocabulary where
  lexicon := ⟨[blankDefinition, hexDefinition, decimalDefinition, operatorDefinition,
    openingDefinition, closingDefinition]⟩
  blank := ⟨0, "WS", readUnit⟩
  hex := ⟨1, "HEX", readHex⟩
  decimal := ⟨2, "INT", readDecimal⟩
  operator := ⟨3, "OP", Operator.ofSymbol?⟩
  opening := ⟨4, "LPAREN", readUnit⟩
  closing := ⟨5, "RPAREN", readUnit⟩

def exprRule : Rule := ⟨1, 0, "expr", 0⟩

def numberRule : Rule := ⟨1, 1, "number", 0⟩

def atomRule : Rule := ⟨1, 2, "atom", 0⟩

def standard : Calculator where
  vocabulary := standardVocabulary
  expr := exprRule
  grammar := ⟨1, [⟨"expr", 0, standardVocabulary.exprBody atomRule exprRule⟩,
    ⟨"number", 0, standardVocabulary.numberBody⟩,
    ⟨"atom", 0, standardVocabulary.atomBody numberRule exprRule⟩]⟩

theorem make_blank : Definition.make .standard "WS" "\\s+" = .ok blankDefinition :=
  Definition.make_eq_ok "WS" (by decide +kernel) (by decide +kernel)

theorem make_hex : Definition.make .standard "HEX" "0[xX][0-9a-fA-F]+" = .ok hexDefinition :=
  Definition.make_eq_ok "HEX" (by decide +kernel) (by decide +kernel)

theorem make_decimal : Definition.make .standard "INT" "[0-9]+" = .ok decimalDefinition :=
  Definition.make_eq_ok "INT" (by decide +kernel) (by decide +kernel)

theorem make_operator : Definition.make .standard "OP" "[-+*/]" = .ok operatorDefinition :=
  Definition.make_eq_ok "OP" (by decide +kernel) (by decide +kernel)

theorem make_opening : Definition.make .standard "LPAREN" "\\(" = .ok openingDefinition :=
  Definition.make_eq_ok "LPAREN" (by decide +kernel) (by decide +kernel)

theorem make_closing : Definition.make .standard "RPAREN" "\\)" = .ok closingDefinition :=
  Definition.make_eq_ok "RPAREN" (by decide +kernel) (by decide +kernel)

theorem tracedVocabulary_value : tracedVocabulary.run.value = .ok standardVocabulary := by
  rw [tracedVocabulary, Traced.bind_value_of_ok (Lexicon.tracedDefine_value make_blank _ _),
    Traced.bind_value_of_ok (Lexicon.tracedDefine_value make_hex _ _),
    Traced.bind_value_of_ok (Lexicon.tracedDefine_value make_decimal _ _),
    Traced.bind_value_of_ok (Lexicon.tracedDefine_value make_operator _ _),
    Traced.bind_value_of_ok (Lexicon.tracedDefine_value make_opening _ _),
    Traced.bind_value_of_ok (Lexicon.tracedDefine_value make_closing _ _)]
  rfl

theorem new_eq_standard : new = .ok standard := by
  unfold new
  rw [tracedVocabulary_value]
  rfl

end Calculator

end TokenGrammar
