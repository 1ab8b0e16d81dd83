import TokenGrammar.Console.Program

/-!
# The command line

Connects the program to its standard streams: a dialogue takes one line at a time, everything else
is answered at once.
-/

namespace TokenGrammar.Main

/-- The bytes up to and with the next line feed, or up to the end of the input. -/
partial def readLine (input : IO.FS.Stream) (line : ByteArray) : IO ByteArray := do
  let byte ← input.read 1
  if byte.isEmpty then return line
  let line := line ++ byte
  if byte.toList = [10] then return line
  readLine input line

def perform (output : IO.FS.Stream) : Action → IO Unit
  | .write text => output.putStr text
  | .flush => output.flush
  | .event _ => pure ()

partial def converse (dialogue : Dialogue) : IO UInt32 := do
  let output ← IO.getStdout
  dialogue.prompt.forM (perform output)
  let bytes ← readLine (← IO.getStdin) ByteArray.empty
  if bytes.isEmpty then
    output.putStr "\n"
    return 0
  match String.fromUTF8? bytes with
  | none =>
    (← IO.getStderr).putStr (Program.errorLine ConsoleError.inputNotText.message)
    return 1
  | some line =>
    match dialogue.respond line with
    | (.exit, _) => return 0
    | (_, actions) =>
      actions.forM (perform output)
      converse dialogue

def finish (result : Program.Result) : IO UInt32 := do
  (← IO.getStderr).putStr result.stderr
  (← IO.getStdout).putStr result.stdout
  return result.code

def run (arguments : List String) : IO UInt32 := do
  let terminal ← (← IO.getStdout).isTty
  match Options.read arguments, Calculator.new with
  | .ok (.calculate options), .ok calculator =>
    if options.expression?.isSome then finish (Program.run arguments terminal ByteArray.empty)
    else converse { calculator, options, terminal }
  | _, _ => finish (Program.run arguments terminal ByteArray.empty)

end TokenGrammar.Main

def main (arguments : List String) : IO UInt32 := TokenGrammar.Main.run arguments
