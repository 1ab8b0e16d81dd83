import TokenGrammar.Pattern.Reader.Basic
import TokenGrammar.Text.Numeral

/-!
# Escapes

What follows a backslash: a character, a class of characters, or a condition on the place.
-/

namespace TokenGrammar

namespace Pattern.Reader

inductive Escape where
  | literal (c : Char)
  | set (members : CharSet)
  | anchor (condition : Anchor)

def numeral (base : Nat) (digits : List Char) : Reader Nat := do
  let some n := Text.natural? base digits | failure
  return n

def ofCode (code : Nat) : Reader Char := do
  guard code.isValidChar
  guard ((← flags).unicode || code < 128)
  return Char.ofNat code

/-- The next characters, so many of them, each followed by skipped space. -/
def exactly : Nat → Reader (List Char)
  | 0 => return []
  | count + 1 => do
    let some c ← next | failure
    advanceSpace
    return c :: (← exactly count)

/-- A code point in hexadecimal digits: so many, or any number of them in braces. -/
def hexEscape (count : Nat) : Reader Char := do
  skipSpace
  if (← next) = some '\x7b' then
    advanceSpace
    let digits ← spaced (· != '\x7d')
    expect '\x7d'
    skipSpace
    ofCode (← numeral 16 digits)
  else
    ofCode (← numeral 16 (← exactly count))

/-- The condition of `\b`, or of one of its forms with a name in braces. -/
def wordEdge : Reader Anchor := do
  let letters := (← flags).letters
  let before ← get
  if (← next) != some '\x7b' then return .wordEdge letters
  advanceSpace
  let isNameChar := fun c : Char => c.isAlpha || c == '-'
  match ← next with
  | none => failure
  | some c =>
    if !isNameChar c then
      restore before
      return .wordEdge letters
    let name ← spaced isNameChar
    expect '\x7d'
    match String.ofList name with
    | "start" => return .wordStart letters
    | "end" => return .wordEnd letters
    | "start-half" => return .wordStartHalf letters
    | "end-half" => return .wordEndHalf letters
    | _ => failure

def propertyLetter : Reader (List Char) := do
  let some c ← next | failure
  guard (c != '\\')
  advanceSpace
  return [c]

/-- What stands behind `\p`: a letter, or a text in braces. -/
def propertyQuery : Reader (List Char) := do
  skipSpace
  if (← next) = some '\x7b' then
    advanceSpace
    let query ← spaced (· != '\x7d')
    expect '\x7d'
    return query
  propertyLetter

def propertyClass (complement : Bool) : Reader CharSet := do
  let flags ← flags
  let some members := flags.property? (← propertyQuery) complement | failure
  return members

def escape : Reader Escape := do
  let some c ← next | failure
  advance
  let flags ← flags
  let complement := fun members => do
    let some members := flags.compl? members | failure
    return Escape.set members
  match c with
  | 'x' => return .literal (← hexEscape 2)
  | 'u' => return .literal (← hexEscape 4)
  | 'U' => return .literal (← hexEscape 8)
  | 'd' => return .set flags.digits
  | 's' => return .set flags.blanks
  | 'w' => return .set flags.letters
  | 'D' => complement flags.digits
  | 'S' => complement flags.blanks
  | 'W' => complement flags.letters
  | 'p' => return .set (← propertyClass false)
  | 'P' => return .set (← propertyClass true)
  | 'a' => return .literal '\x07'
  | 'f' => return .literal '\x0c'
  | 't' => return .literal '\t'
  | 'n' => return .literal '\n'
  | 'r' => return .literal '\r'
  | 'v' => return .literal '\x0b'
  | 'A' => return .anchor .textStart
  | 'z' => return .anchor .textEnd
  | 'b' => return .anchor (← wordEdge)
  | 'B' => return .anchor (.noWordEdge flags.letters)
  | '<' => return .anchor (.wordStart flags.letters)
  | '>' => return .anchor (.wordEnd flags.letters)
  | _ =>
    guard (c.toNat < 128 && !c.isAlphanum)
    return .literal c

end Pattern.Reader

end TokenGrammar
