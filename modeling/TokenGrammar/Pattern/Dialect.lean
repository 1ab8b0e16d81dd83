import TokenGrammar.Pattern.CharSet
import TokenGrammar.Text.Category

/-!
# Dialects

What the meaning of a pattern takes from the version of Unicode, and how large patterns may become.
Reading and matching work alike in all dialects.
-/

namespace TokenGrammar.Pattern

structure Dialect where
  digits : CharSet
  letters : CharSet
  folds : List Text.FoldRun
  /-- What stands in the braces of a property class, or the letter in place of them: whether the
  property is negated, and its characters. -/
  property? : List Char → Option (Bool × CharSet)
  /-- Whether a text keeps within the limits on nesting and on the size of its matcher. -/
  admits : List Char → Bool

namespace Dialect

def named? (name : List Char) : Option CharSet :=
  match Text.plainName name with
  | "any" => some CharSet.any
  | "ascii" => some CharSet.ascii
  | _ => (Text.category? name).map fun tables => CharSet.unionAll (tables.map .table)

/-- A name, or the general category and its value on the two sides of an equality sign or a colon;
an exclamation mark before the sign negates. -/
def category? (query : List Char) : Option (Bool × CharSet) :=
  match query.span fun c => c != '=' && c != ':' with
  | (name, []) => (named? name).map fun members => (false, members)
  | (front, sign :: value) =>
    let negated := sign = '=' && front.getLast? = some '!'
    let name := Text.plainName (if negated then front.dropLast else front)
    if name = "gc" || name = "generalcategory" then
      (named? value).map fun members => (negated, members)
    else none

/-- The dialect of Unicode 15 without scripts, and without limits. -/
def standard : Dialect where
  digits := .table Text.decimalNumber
  letters := .table Text.wordRanges
  folds := Text.foldRuns
  property? := category?
  admits _ := true

end Dialect

end TokenGrammar.Pattern
