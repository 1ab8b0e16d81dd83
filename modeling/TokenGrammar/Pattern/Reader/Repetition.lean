import TokenGrammar.Pattern.Reader.Escape
import TokenGrammar.Word

/-!
# Repetition operators
-/

namespace TokenGrammar

namespace Pattern.Reader

def countLimit : Nat := Word.limit

/-- A decimal number with blanks around it. -/
def decimal? : Reader (Option Nat) := do
  let _ ← takeWhile Text.isBlank
  let digits ← spaced Char.isDigit
  let _ ← takeWhile Text.isBlank
  skipSpace
  if digits.isEmpty then return none
  let n ← numeral 10 digits
  guard (n ≤ countLimit)
  return some n

def bounds : Reader (Nat × Option Nat) := do
  expect '\x7b'
  skipSpace
  let some least ← decimal? | failure
  let most ← do
    if (← next) = some ',' then
      advanceSpace
      if (← next) = some '\x7d' then pure none
      else
        let some most ← decimal? | failure
        pure (some most)
    else pure (some least)
  expect '\x7d'
  skipSpace
  guard (most.all (least ≤ ·))
  return (least, most)

def repetition (operator : Char) : Reader (Nat × Option Nat × Bool) := do
  let (least, most) ← match operator with
    | '*' => do advance; pure (0, none)
    | '+' => do advance; pure (1, none)
    | '?' => do advance; pure (0, some 1)
    | _ => bounds
  let reluctant ← accept "?"
  return (least, most, reluctant == (← flags).swapGreed)

end Pattern.Reader

end TokenGrammar
