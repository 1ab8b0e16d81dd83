import TokenGrammar.Console.Dialogue

/-!
# The program

What the command line program does with its arguments and its standard input.
-/

namespace TokenGrammar

namespace Program

def usageLines : List String :=
  ["Tarn calculator",
    "",
    "Usage: tarn [options]",
    "",
    "Reads expressions from stdin, one per line, and prints their values.",
    "Operators group to the right; use parentheses to override.",
    "",
    "Options:",
    "  -e <expr>             Evaluate one expression and exit",
    "  --tokens              Print each line's tokens",
    "  --prompt=<text>       Prompt text (default: \"> \")",
    "  --color=<mode>        auto, always, never (default: auto)",
    "  --trace-tree          Nested trace output (with RUST_LOG set)",
    "  help                  Show this message"]

def usage : String := String.join (usageLines.map (· ++ "\n"))

def errorLine (message : String) : String := "error: " ++ message ++ "\n"

structure Result where
  code : UInt32
  stdout : String
  stderr : String
deriving DecidableEq, Repr

def runOptions (options : Options) (terminal : Bool) (input : ByteArray) : Result :=
  match Calculator.new with
  | .error error => ⟨1, "", errorLine error.message⟩
  | .ok calculator =>
    let dialogue : Dialogue := { calculator, options, terminal }
    match options.expression? with
    | some expression =>
      let (success, actions) := dialogue.answer expression
      ⟨if success then 0 else 1, Action.text actions, ""⟩
    | none =>
      match dialogue.run (inputLines input) with
      | (.ok _, actions) => ⟨0, Action.text actions, ""⟩
      | (.error error, actions) => ⟨1, Action.text actions, errorLine error.message⟩

def run (arguments : List String) (terminal : Bool) (input : ByteArray) : Result :=
  match Options.read arguments with
  | .ok .help => ⟨0, usage, ""⟩
  | .error error => ⟨2, usage, errorLine error.message ++ "\n"⟩
  | .ok (.calculate options) => runOptions options terminal input

end Program

end TokenGrammar
