import TokenGrammar.Trace

/-!
# Output

What a program does to its output, in order, and what becomes of it in an output that may have room
for only so many bytes.
-/

namespace TokenGrammar

inductive Action where
  | write (text : String)
  | flush
  | event (event : Event)
deriving DecidableEq, Repr

namespace Action

def text (actions : List Action) : String :=
  String.join (actions.map fun action =>
    match action with
    | write text => text
    | flush => ""
    | event _ => "")

def line (text : String) : Action := write (text ++ "\n")

end Action

/-- The bytes written up to each flush, newest first, and those written since. -/
structure Output where
  room? : Option Nat
  flushed : List ByteArray
  pending : ByteArray
  events : List Event
  /-- Whether something was written that there was no room for. -/
  overfull : Bool

namespace Output

def new (room? : Option Nat) : Output := ⟨room?, [], ByteArray.empty, [], false⟩

def write (output : Output) (bytes : ByteArray) : Output :=
  match output.room? with
  | none => { output with pending := output.pending ++ bytes }
  | some room =>
    { output with
      room? := some (room - bytes.size)
      pending := output.pending ++ bytes.extract 0 room
      overfull := room < bytes.size }

def perform (output : Output) : Action → Output
  | .write text => output.write text.toUTF8
  | .flush =>
    { output with flushed := output.pending :: output.flushed, pending := ByteArray.empty }
  | .event event => { output with events := event :: output.events }

/-- Performs actions in order, and none after one for which there was no room. -/
def performAll (output : Output) : List Action → Output
  | [] => output
  | action :: rest =>
    let output := output.perform action
    if output.overfull then output else output.performAll rest

end Output

end TokenGrammar
