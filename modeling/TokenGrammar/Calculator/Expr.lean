import TokenGrammar.Text.Numeral

/-!
# Arithmetic expressions

Expressions over 64-bit integers and their checked evaluation: a result that does not fit is an
error of the operator that gave it.
-/

namespace TokenGrammar

inductive Operator where
  | add
  | sub
  | mul
  | div
deriving DecidableEq, Repr

inductive EvalError where
  | divisionByZero
  | overflow (operator : Operator)
deriving DecidableEq, Repr

namespace Operator

def symbol : Operator → String
  | add => "+"
  | sub => "-"
  | mul => "*"
  | div => "/"

def ofSymbol? : String → Option Operator
  | "+" => some add
  | "-" => some sub
  | "*" => some mul
  | "/" => some div
  | _ => none

def name : Operator → String
  | add => "Add"
  | sub => "Sub"
  | mul => "Mul"
  | div => "Div"

/-- The exact result; division drops the fraction. -/
def exact : Operator → Int → Int → Int
  | add, left, right => left + right
  | sub, left, right => left - right
  | mul, left, right => left * right
  | div, left, right => left.tdiv right

def apply (operator : Operator) (left right : Int64) : Except EvalError Int64 :=
  if operator = div ∧ right = 0 then .error .divisionByZero
  else
    match Text.toInt64? (operator.exact left.toInt right.toInt) with
    | some result => .ok result
    | none => .error (.overflow operator)

theorem ofSymbol?_symbol (operator : Operator) : ofSymbol? operator.symbol = some operator := by
  cases operator <;> rfl

end Operator

namespace EvalError

def message : EvalError → String
  | divisionByZero => "division by zero"
  | overflow operator => s!"arithmetic overflow in `{operator.symbol}`"

end EvalError

inductive Expr where
  | number (n : Int64)
  | binary (operator : Operator) (left right : Expr)
deriving DecidableEq, Repr

namespace Expr

def evaluate : Expr → Except EvalError Int64
  | number n => .ok n
  | binary operator left right => do
    let left ← left.evaluate
    let right ← right.evaluate
    operator.apply left right

/-- The expression with every grouping in parentheses. -/
def render : Expr → String
  | number n => toString n.toInt
  | binary operator left right =>
    "(" ++ left.render ++ " " ++ operator.symbol ++ " " ++ right.render ++ ")"

def describe : Expr → String
  | number n => "Number(" ++ toString n.toInt ++ ")"
  | binary operator left right =>
    "Binary \x7b op: " ++ operator.name ++ ", lhs: " ++ left.describe ++ ", rhs: " ++
      right.describe ++ " \x7d"

end Expr

end TokenGrammar
