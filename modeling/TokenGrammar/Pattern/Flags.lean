import TokenGrammar.Pattern.Basic
import TokenGrammar.Pattern.Dialect

/-!
# Flags of patterns

What the letters between `(?` and `)` switch on and off, and what that makes classes, the dot and
the anchors of lines mean in a dialect.
-/

namespace TokenGrammar

namespace Pattern

structure Flags where
  dialect : Dialect
  ignoreCase : Bool := false
  multiLine : Bool := false
  dotMatchesNewline : Bool := false
  swapGreed : Bool := false
  /-- Blanks and comments from `#` to the end of the line are skipped. -/
  extended : Bool := false
  carriageReturn : Bool := false
  unicode : Bool := true

namespace Flags

def set? (flags : Flags) (letter : Char) (value : Bool) : Option Flags :=
  match letter with
  | 'i' => some { flags with ignoreCase := value }
  | 'm' => some { flags with multiLine := value }
  | 's' => some { flags with dotMatchesNewline := value }
  | 'U' => some { flags with swapGreed := value }
  | 'x' => some { flags with extended := value }
  | 'R' => some { flags with carriageReturn := value }
  | 'u' => some { flags with unicode := value }
  | _ => none

/-- Applies the letters between `(?` and `)` or `:`. A letter may stand there once, and a minus sign
once and not last. -/
def update? (flags : Flags) (value : Bool) (used : List Char) : List Char → Option Flags
  | [] => if value || used.head? != some '-' then some flags else none
  | letter :: rest =>
    if used.contains letter then none
    else if letter = '-' then flags.update? false ('-' :: used) rest
    else do (← flags.set? letter value).update? value (letter :: used) rest

def digits (flags : Flags) : CharSet :=
  if flags.unicode then flags.dialect.digits else CharSet.asciiDigit

def blanks (flags : Flags) : CharSet := if flags.unicode then CharSet.blank else CharSet.asciiBlank

def letters (flags : Flags) : CharSet :=
  if flags.unicode then flags.dialect.letters else CharSet.asciiWord

def fold (flags : Flags) (members : CharSet) : CharSet :=
  let closure := CharSet.caseClosure flags.dialect.folds members
  if !flags.ignoreCase then members
  else if flags.unicode then closure
  else .union members (.inter CharSet.ascii closure)

/-- Everything outside a set. Without the Unicode flag this is refused, since the complement would
hold bytes that are no text. -/
def compl? (flags : Flags) (members : CharSet) : Option CharSet :=
  if flags.unicode then some (.compl members) else none

/-- The characters with a property; without the Unicode flag no text names one. -/
def property? (flags : Flags) (query : List Char) (complement : Bool) : Option CharSet := do
  guard flags.unicode
  let (negated, members) ← flags.dialect.property? query
  if negated = complement then return flags.fold members
  flags.compl? (flags.fold members)

def dot? (flags : Flags) : Option CharSet :=
  if flags.dotMatchesNewline then flags.compl? .empty
  else if flags.carriageReturn then flags.compl? (CharSet.ofRanges [('\n', '\n'), ('\r', '\r')])
  else flags.compl? CharSet.lineFeed

def lineStart (flags : Flags) : Anchor :=
  if !flags.multiLine then .textStart
  else if flags.carriageReturn then .returnLineStart
  else .lineStart

def lineEnd (flags : Flags) : Anchor :=
  if !flags.multiLine then .textEnd
  else if flags.carriageReturn then .returnLineEnd
  else .lineEnd

end Flags

end Pattern

end TokenGrammar
