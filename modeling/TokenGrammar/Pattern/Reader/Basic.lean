import TokenGrammar.Pattern.Flags

/-!
# Reading character by character

The state in which the text of a pattern is read, and the steps that every part of the reader takes.
-/

namespace TokenGrammar

namespace Pattern

/-- What is left to read, the flags in force, and the names given to groups so far. -/
structure Reading where
  rest : List Char
  flags : Flags
  groupNames : List (List Char)

abbrev Reader := StateT Reading Option

namespace Reader

def next : Reader (Option Char) := return (← get).rest.head?

def flags : Reader Flags := return (← get).flags

def setRest (rest : List Char) : Reader Unit := modify fun reading => { reading with rest }

def setFlags (flags : Flags) : Reader Unit := modify fun reading => { reading with flags }

def restore (reading : Reading) : Reader Unit := StateT.set reading

def advance : Reader Unit := do setRest ((← get).rest.drop 1)

/-- What follows the blanks and comments. -/
def skipBlanks (inComment : Bool) : List Char → List Char
  | [] => []
  | c :: rest =>
    if inComment then skipBlanks (c != '\n') rest
    else if Text.isBlank c then skipBlanks false rest
    else if c = '#' then skipBlanks true rest
    else c :: rest

def skipSpace : Reader Unit := do
  if (← flags).extended then setRest (skipBlanks false (← get).rest)

def advanceSpace : Reader Unit := do advance; skipSpace

def expect (c : Char) : Reader Unit := do
  guard ((← next) = some c)
  advance

def accept (text : String) : Reader Bool := do
  let rest := (← get).rest
  if text.toList.isPrefixOf rest then
    setRest (rest.drop text.length)
    return true
  return false

/-- The characters up to the first that fails the test, each followed by skipped space. -/
def spacedRun (test : Char → Bool) : Nat → Reader (List Char)
  | 0 => return []
  | fuel + 1 => do
    match ← next with
    | some c =>
      if test c then
        advanceSpace
        return c :: (← spacedRun test fuel)
      return []
    | none => return []

def spaced (test : Char → Bool) : Reader (List Char) := do spacedRun test (← get).rest.length

def takeWhile (test : Char → Bool) : Reader (List Char) := do
  let rest := (← get).rest
  setRest (rest.dropWhile test)
  return rest.takeWhile test

end Reader

end Pattern

end TokenGrammar
