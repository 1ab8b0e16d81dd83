import TokenGrammar.Pattern.Reader.Escape

/-!
# Bracketed classes

Classes in square brackets, with ranges, named and nested classes, and operators between operands.
-/

namespace TokenGrammar

namespace Pattern.Reader

/-- A class name between `[:` and `:]`; nothing is read if there is none. -/
def namedClass : Reader (Option CharSet) := do
  let before ← get
  let flags ← flags
  if !(← accept "[:") then return none
  let negated ← accept "^"
  let name ← takeWhile (· != ':')
  let closed ← accept ":]"
  match CharSet.named? (String.ofList name) with
  | some members =>
    if !closed then
      restore before
      return none
    let members := flags.fold members
    if !negated then return some members
    let some members := flags.compl? members | failure
    return some members
  | none =>
    restore before
    return none

def classItem : Reader Escape := do
  let some c ← next | failure
  advance
  if c = '\\' then escape
  else do
    guard ((← flags).unicode || c.toNat < 128)
    return .literal c

def classRange : Reader CharSet := do
  let first ← classItem
  skipSpace
  let nextAfterDash := do
    advanceSpace
    next
  let before ← get
  let isRange ← do
    if (← next) = some '-' then
      let after ← nextAfterDash
      pure (after != some ']' && after != some '-')
    else pure false
  if isRange then
    let last ← classItem
    match first, last with
    | .literal low, .literal high =>
      guard (low ≤ high)
      return .range low high
    | _, _ => failure
  else
    restore before
    match first with
    | .literal c => return CharSet.single c
    | .set members => return members
    | .anchor _ => failure

inductive ClassOperator where
  | inter
  | diff
  | symmDiff

def ClassOperator.apply : ClassOperator → CharSet → CharSet → CharSet
  | inter => .inter
  | diff => .diff
  | symmDiff => .symmDiff

def classOperator : Reader (Option ClassOperator) := do
  if ← accept "&&" then return some .inter
  if ← accept "--" then return some .diff
  if ← accept "~~" then return some .symmDiff
  return none

/-- The minus signs right after an opening bracket, which are members. -/
def leadingDashes : Nat → Reader (List CharSet)
  | 0 => return []
  | fuel + 1 => do
    if (← next) = some '-' then
      advanceSpace
      return CharSet.single '-' :: (← leadingDashes fuel)
    return []

/-- What an opening bracket may be followed by: a caret that negates, and members that would close
the class or join operands elsewhere. -/
def classOpening : Reader (Bool × List CharSet) := do
  expect '['
  skipSpace
  let negated ← accept "^"
  if negated then skipSpace
  let dashes ← leadingDashes (← get).rest.length
  if dashes.isEmpty && (← next) = some ']' then
    advanceSpace
    return (negated, [CharSet.single ']'])
  return (negated, dashes)

mutual

def bracketClass : Nat → Reader CharSet
  | 0 => failure
  | fuel + 1 => do
    let (negated, members) ← classOpening
    let flags ← flags
    let members := flags.fold (← classMembers fuel none members)
    if !negated then return members
    let some members := flags.compl? members | failure
    return members

/-- The members up to the closing bracket. `pending` is the operand read before, with the operator
that joins it to the one being read; operators group to the left. -/
def classMembers : Nat → Option (CharSet × ClassOperator) → List CharSet → Reader CharSet
  | 0, _, _ => failure
  | fuel + 1, pending, members => do
    skipSpace
    let flags ← flags
    let operand := match pending with
      | none => CharSet.unionAll members
      | some (left, operator) =>
        operator.apply (flags.fold left) (flags.fold (CharSet.unionAll members))
    match ← next with
    | none => failure
    | some ']' =>
      advance
      return operand
    | some '[' =>
      match ← namedClass with
      | some named => classMembers fuel pending (members ++ [named])
      | none => classMembers fuel pending (members ++ [← bracketClass fuel])
    | some _ =>
      match ← classOperator with
      | some operator => classMembers fuel (some (operand, operator)) []
      | none => classMembers fuel pending (members ++ [← classRange])

end

end Pattern.Reader

end TokenGrammar
