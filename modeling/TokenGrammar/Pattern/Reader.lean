import TokenGrammar.Pattern.Reader.Bracket
import TokenGrammar.Pattern.Reader.Repetition

/-!
# Reading patterns

The pattern that a text denotes. Flags set inside a group hold to the end of that group, also in its
later alternatives. `Pattern.read?` gives nothing for a text that is not a pattern.
-/

namespace TokenGrammar

namespace Pattern

namespace Reader

/-- What an opening parenthesis begins: a group, with the flags inside it, or a setting of flags. -/
inductive Opening where
  | group (inside : Flags)
  | setting (flags : Flags)

def isNameStart (c : Char) : Bool := c == '_' || c.isAlpha

def isNameChar (c : Char) : Bool :=
  isNameStart c || c.isDigit || c == '.' || c == '[' || c == ']'

/-- A group name up to `>`, given to no other group. -/
def groupName : Reader Unit := do
  let name ← takeWhile (· != '>')
  expect '>'
  guard (name.head?.any isNameStart && name.all isNameChar)
  guard (!(← get).groupNames.contains name)
  modify fun reading => { reading with groupNames := name :: reading.groupNames }

/-- Whether a group name follows, which may stand behind a `P`. -/
def namedOpening : Reader Bool := do
  if ← accept "?P<" then return true
  accept "?<"

/-- What follows an opening parenthesis. Look-around is refused. -/
def opening : Reader Opening := do
  skipSpace
  if (← accept "?=") || (← accept "?!") || (← accept "?<=") || (← accept "?<!") then failure
  let outer ← flags
  if ← namedOpening then
    groupName
    return .group outer
  if ← accept "?" then
    let letters ← takeWhile fun c => c != ':' && c != ')'
    let some flags := outer.update? true [] letters | failure
    if ← accept ":" then return .group flags
    guard (!letters.isEmpty)
    expect ')'
    return .setting flags
  return .group outer

def plain (c : Char) : Reader Pattern := do
  advance
  let flags ← flags
  match c with
  | '.' => do
    let some members := flags.dot? | failure
    return .set members
  | '^' => return .anchor flags.lineStart
  | '$' => return .anchor flags.lineEnd
  | '\\' =>
    match ← escape with
    | .literal c => return .set (flags.fold (CharSet.single c))
    | .set members => return .set members
    | .anchor condition => return .anchor condition
  | _ => return .set (flags.fold (CharSet.single c))

mutual

def alternatives : Nat → Reader Pattern
  | 0 => failure
  | fuel + 1 => do
    let first ← sequence fuel []
    if ← accept "|" then return .alt first (← alternatives fuel)
    return first

/-- The items up to the end of the alternative. `items` are those read before, newest first; nothing
stands for one that cannot be repeated. -/
def sequence : Nat → List (Option Pattern) → Reader Pattern
  | 0, _ => failure
  | fuel + 1, items => do
    skipSpace
    match ← next with
    | none => return Pattern.seqAll (items.filterMap id).reverse
    | some c =>
      if c = ')' || c = '|' then return Pattern.seqAll (items.filterMap id).reverse
      else if c = '(' then sequence fuel ((← group fuel) :: items)
      else if c = '[' then
        sequence fuel (some (.set (← bracketClass (← get).rest.length)) :: items)
      else if c = '*' || c = '+' || c = '?' || c = '\x7b' then
        match items with
        | some body :: before =>
          let (least, most, greedy) ← repetition c
          sequence fuel (some (.repeated body least most greedy) :: before)
        | _ => failure
      else sequence fuel (some (← plain c) :: items)

def group : Nat → Reader (Option Pattern)
  | 0 => failure
  | fuel + 1 => do
    expect '('
    let outer ← flags
    match ← opening with
    | .setting flags =>
      setFlags flags
      return none
    | .group inside =>
      setFlags inside
      let body ← alternatives fuel
      expect ')'
      setFlags outer
      return some body

end

end Reader

/-- The pattern that a text denotes in a dialect, if it is one as a whole. -/
def read? (dialect : Dialect) (text : List Char) : Option Pattern :=
  match (Reader.alternatives (3 * text.length + 3)).run ⟨text, { dialect }, []⟩ with
  | some (pattern, reading) =>
    if reading.rest.isEmpty && dialect.admits text then some pattern else none
  | none => none

end Pattern

end TokenGrammar
