import TokenGrammar.Calculator.Basic
import TokenGrammar.Console.Output

/-!
# Error reports

A header with the message and, for an error with an offset, the source with a caret below it.
-/

namespace TokenGrammar

inductive ColorMode where
  | auto
  | always
  | never
deriving DecidableEq, Repr

namespace ColorMode

/-- Whether to write colours, which by default only a terminal gets. -/
def usesColors (mode : ColorMode) (terminal : Bool) : Bool :=
  match mode with
  | auto => terminal
  | always => true
  | never => false

end ColorMode

namespace Report

def errorColor : String := "\x1b[1;31m"

def gutterColor : String := "\x1b[1;34m"

def resetColor : String := "\x1b[0m"

def paint (colors : Bool) (color text : String) : String :=
  if colors then color ++ text ++ resetColor else text

def gutter (colors : Bool) : String := paint colors gutterColor "  |"

/-- The number of characters before a byte offset, or zero if the offset names no place. -/
def column (source : String) (offset : Nat) : Nat :=
  match Text.splitAtByte? offset source.toList with
  | some (before, _) => before.length
  | none => 0

def spaces (count : Nat) : String := String.ofList (List.replicate count ' ')

def header (colors : Bool) (error : CalcError) : String :=
  paint colors errorColor "error" ++ ": " ++ error.message ++ "\n"

def sourceLine (colors : Bool) (source : String) : String :=
  gutter colors ++ " " ++ source ++ "\n"

def caretLine (colors : Bool) (source : String) (offset : Nat) : String :=
  gutter colors ++ " " ++ spaces (column source offset) ++ paint colors errorColor "^" ++ "\n"

def text (colors : Bool) (source : String) (error : CalcError) : String :=
  match error.offset? with
  | some offset =>
    header colors error ++ sourceLine colors source ++ caretLine colors source offset
  | none => header colors error

def actions (colors : Bool) (source : String) (error : CalcError) : List Action :=
  [.write (text colors source error), .flush]

end Report

end TokenGrammar
