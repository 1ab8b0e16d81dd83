import TokenGrammar.Calculator.Expr
import TokenGrammar.Session

/-!
# The calculator

The language of the calculator: a number is hexadecimal or decimal, an atom is a number or an
expression in parentheses, and an expression is an atom, or an atom, an operator and an expression.
Operators therefore group to the right, and only parentheses make them group otherwise.
-/

namespace TokenGrammar

inductive CalcError where
  | scan (error : ScanError)
  | grammar (error : SyntaxError)
  | evaluation (error : EvalError)
deriving DecidableEq, Repr

namespace CalcError

def message : CalcError → String
  | scan error => error.message
  | grammar error => error.message
  | evaluation error => error.message

/-- The byte offset that the error is about; errors of evaluation have none. -/
def offset? : CalcError → Option Nat
  | scan error => some error.offset
  | grammar error => some error.offset
  | evaluation _ => none

end CalcError

inductive BuildError where
  | definition (error : DefinitionError)
  | grammar (error : GrammarError)
deriving DecidableEq, Repr

namespace BuildError

def message : BuildError → String
  | definition error => "invalid token definition: " ++ error.message
  | grammar error => "invalid grammar: " ++ error.message

end BuildError

namespace Calculator

/-! ### Tokens -/

structure Vocabulary where
  lexicon : Lexicon
  blank : Kind Unit
  hex : Kind Int64
  decimal : Kind Int64
  operator : Kind Operator
  opening : Kind Unit
  closing : Kind Unit

def readHex (text : String) : Option Int64 := Text.markedHex? text.toList

def readDecimal (text : String) : Option Int64 := Text.int64? 10 text.toList

def readUnit (_ : String) : Option Unit := some ()

def tracedVocabulary : ExceptT DefinitionError Traced Vocabulary := do
  let lexicon := Lexicon.empty
  let (blank, lexicon) ← ExceptT.mk (lexicon.tracedDefine "WS" "\\s+" readUnit)
  let (hex, lexicon) ← ExceptT.mk (lexicon.tracedDefine "HEX" "0[xX][0-9a-fA-F]+" readHex)
  let (decimal, lexicon) ← ExceptT.mk (lexicon.tracedDefine "INT" "[0-9]+" readDecimal)
  let (operator, lexicon) ← ExceptT.mk (lexicon.tracedDefine "OP" "[-+*/]" Operator.ofSymbol?)
  let (opening, lexicon) ← ExceptT.mk (lexicon.tracedDefine "LPAREN" "\\(" readUnit)
  let (closing, lexicon) ← ExceptT.mk (lexicon.tracedDefine "RPAREN" "\\)" readUnit)
  return { lexicon, blank, hex, decimal, operator, opening, closing }

/-! ### Rules -/

namespace Vocabulary

def numberBody (vocabulary : Vocabulary) : Parser Expr Expr :=
  .map Expr.number (.alt (.token vocabulary.hex) (.token vocabulary.decimal))

def atomBody (vocabulary : Vocabulary) (number expr : Rule) : Parser Expr Expr :=
  .alt (.rule number)
    (.thenIgnore (.ignoreThen (.token vocabulary.opening) (.rule expr))
      (.token vocabulary.closing))

def join : Expr × Option (Operator × Expr) → Expr
  | (left, some (operator, right)) => .binary operator left right
  | (left, none) => left

def exprBody (vocabulary : Vocabulary) (atom expr : Rule) : Parser Expr Expr :=
  .map join
    (.seq (.rule atom) (.optional (.seq (.token vocabulary.operator) (.rule expr))))

/-- The rule for expressions and the grammar that it belongs to. -/
def grammar (vocabulary : Vocabulary) :
    Except GrammarError (Rule × Grammar (RuleBody Expr)) := do
  let (expr, builder) := (GrammarBuilder.new 1).declare "expr"
  let (number, builder) ← builder.define "number" vocabulary.numberBody
  let (atom, builder) ← builder.define "atom" (vocabulary.atomBody number expr)
  let builder ← builder.bind expr (vocabulary.exprBody atom expr)
  let grammar ← builder.build
  return (expr, grammar)

end Vocabulary

end Calculator

structure Calculator where
  vocabulary : Calculator.Vocabulary
  expr : Rule
  grammar : Grammar (RuleBody Expr)

namespace Calculator

def new : Except BuildError Calculator :=
  match tracedVocabulary.run.value with
  | .error error => .error (.definition error)
  | .ok vocabulary =>
    match vocabulary.grammar with
    | .error error => .error (.grammar error)
    | .ok (expr, grammar) => .ok { vocabulary, expr, grammar }

def newEvents : List Event :=
  tracedVocabulary.run.events ++
    match new with
    | .error _ => []
    | .ok calculator =>
      let rules := calculator.grammar.size
      [.grammarBuilt rules, .calculatorReady calculator.vocabulary.lexicon.size rules]

def skip (calculator : Calculator) : Parser Expr Unit := .token calculator.vocabulary.blank

def tokenize (calculator : Calculator) (source : String) :
    Traced (Except ScanError TokenSequence) :=
  calculator.vocabulary.lexicon.tracedScan source

/-- Reads a whole source as one expression. -/
def parse (calculator : Calculator) (source : String) : Traced (Except CalcError Expr) := do
  Traced.emit (.parsing source.utf8ByteSize)
  match ← calculator.tokenize source with
  | .error error => return .error (.scan error)
  | .ok tokens =>
    let session : Session Expr := ⟨calculator.grammar, tokens⟩
    return (← session.parseAll (.rule calculator.expr) (some calculator.skip)).mapError .grammar

def evaluate (calculator : Calculator) (source : String) : Traced (Except CalcError Int64) := do
  match ← calculator.parse source with
  | .error error => return .error error
  | .ok expr => return expr.evaluate.mapError .evaluation

end Calculator

end TokenGrammar
