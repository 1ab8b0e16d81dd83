import TokenGrammar.Console.Report

/-!
# Command-line options
-/

namespace TokenGrammar

structure Options where
  showTokens : Bool := false
  traceTree : Bool := false
  prompt : String := "> "
  color : ColorMode := .auto
  /-- An expression to evaluate instead of reading lines. -/
  expression? : Option String := none
deriving DecidableEq, Repr

inductive Command where
  | help
  | calculate (options : Options)
deriving DecidableEq, Repr

inductive OptionError where
  | unknownOption (argument : String)
  | missingValue (option : String)
  | invalidColor (mode : String)
  | unexpectedArgument (argument : String)
deriving DecidableEq, Repr

namespace OptionError

def message : OptionError → String
  | unknownOption argument => s!"unknown option `{argument}`"
  | missingValue option => s!"option `{option}` needs a value"
  | invalidColor mode => s!"invalid color mode `{mode}` (expected auto, always or never)"
  | unexpectedArgument argument => s!"unexpected argument `{argument}`"

end OptionError

def ColorMode.ofName? : String → Option ColorMode
  | "auto" => some .auto
  | "always" => some .always
  | "never" => some .never
  | _ => none

namespace Options

def after? (beginning argument : String) : Option String :=
  if beginning.toList.isPrefixOf argument.toList then
    some (String.ofList (argument.toList.drop beginning.length))
  else none

/-- Reads arguments from left to right into the options; a request for help ends the reading. -/
def readFrom (options : Options) : List String → Except OptionError Command
  | [] => .ok (.calculate options)
  | argument :: rest =>
    if argument = "help" ∨ argument = "--help" ∨ argument = "-h" then .ok .help
    else if argument = "--tokens" then { options with showTokens := true }.readFrom rest
    else if argument = "--trace-tree" then { options with traceTree := true }.readFrom rest
    else if argument = "-e" then
      match rest with
      | [] => .error (.missingValue "-e")
      | expression :: rest => { options with expression? := some expression }.readFrom rest
    else
      match after? "--prompt=" argument, after? "--color=" argument with
      | some prompt, _ => { options with prompt }.readFrom rest
      | none, some mode =>
        match ColorMode.ofName? mode with
        | some color => { options with color }.readFrom rest
        | none => .error (.invalidColor mode)
      | none, none =>
        if argument.toList.head? = some '-' then .error (.unknownOption argument)
        else .error (.unexpectedArgument argument)

def read (arguments : List String) : Except OptionError Command := readFrom {} arguments

end Options

end TokenGrammar
