import TokenGrammar.Console.Options

/-!
# Dialogues

Prompting for lines and answering each with its value or a report, until the input ends or a line
asks to stop.
-/

namespace TokenGrammar

/-- Cuts bytes into lines, each with the line feed that ends it. -/
def splitLines (line : List UInt8) : List UInt8 → List (List UInt8)
  | [] => if line.isEmpty then [] else [line.reverse]
  | byte :: rest =>
    if byte = 10 then (byte :: line).reverse :: splitLines [] rest
    else splitLines (byte :: line) rest

/-- The lines of an input; nothing stands for a line whose bytes are not text. -/
def inputLines (input : ByteArray) : List (Option String) :=
  (splitLines [] input.toList).map fun line => String.fromUTF8? ⟨line.toArray⟩

inductive ConsoleError where
  | inputNotText
  | outputFull
deriving DecidableEq, Repr

def ConsoleError.message : ConsoleError → String
  | inputNotText => "stream did not contain valid UTF-8"
  | outputFull => "sink is full"

/-- What a result comes to once its actions have been performed. -/
def Output.conclude {α : Type} (output : Output) (result : Except ConsoleError α) :
    Except ConsoleError α :=
  if output.overfull then .error .outputFull else result

structure Dialogue where
  calculator : Calculator
  options : Options
  terminal : Bool

namespace Dialogue

def colors (dialogue : Dialogue) : Bool := dialogue.options.color.usesColors dialogue.terminal

def tokenLine (tokens : TokenSequence) : String :=
  "tokens: " ++ String.intercalate ", " (tokens.tokens.toList.map Token.describe)

/-- Lists the tokens of a source if that is asked for and it has any reading as tokens. -/
def listTokens (dialogue : Dialogue) (source : String) : List Action :=
  if dialogue.options.showTokens then
    let scan := dialogue.calculator.tokenize source
    scan.events.map .event ++
      match scan.value with
      | .ok tokens => [.line (tokenLine tokens)]
      | .error _ => []
  else []

/-- Answers a line, and tells whether it has a value. -/
def answer (dialogue : Dialogue) (source : String) : Bool × List Action :=
  let result := dialogue.calculator.evaluate source
  let before := dialogue.listTokens source ++ result.events.map .event
  match result.value with
  | .ok value => (true, before ++ [.line (toString value.toInt)])
  | .error error => (false, before ++ Report.actions dialogue.colors source error)

def isExit (command : String) : Bool := command = "exit" || command = "quit"

def isLineEnd (c : Char) : Bool := c = '\n' || c = '\r'

def stripEnd (line : String) : String :=
  String.ofList (line.toList.reverse.dropWhile isLineEnd).reverse

def prompt (dialogue : Dialogue) : List Action := [.write dialogue.options.prompt, .flush]

inductive Turn where
  | blank
  | exit
  | answered (success : Bool)

def respond (dialogue : Dialogue) (line : String) : Turn × List Action :=
  let source := stripEnd line
  let command := String.ofList (Text.trim source.toList)
  if command.isEmpty then (.blank, [])
  else if isExit command then (.exit, [])
  else
    let (success, actions) := dialogue.answer source
    (.answered success, actions)

def finish (failures : Nat) : List Action := [.event (.dialogueFinished failures)]

/-- Holds the dialogue over the given lines after so many failures, and gives the number of all
lines that had no value. -/
def runFrom (dialogue : Dialogue) (failures : Nat) :
    List (Option String) → Except ConsoleError Nat × List Action
  | [] => (.ok failures, dialogue.prompt ++ [.line ""] ++ finish failures)
  | none :: _ => (.error .inputNotText, dialogue.prompt)
  | some line :: rest =>
    match dialogue.respond line with
    | (.exit, _) => (.ok failures, dialogue.prompt ++ finish failures)
    | (.blank, actions) =>
      let (result, later) := dialogue.runFrom failures rest
      (result, dialogue.prompt ++ actions ++ later)
    | (.answered success, actions) =>
      let (result, later) := dialogue.runFrom (if success then failures else failures + 1) rest
      (result, dialogue.prompt ++ actions ++ later)

def run (dialogue : Dialogue) (lines : List (Option String)) :
    Except ConsoleError Nat × List Action :=
  dialogue.runFrom 0 lines

end Dialogue

end TokenGrammar
