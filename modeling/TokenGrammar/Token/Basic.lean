import TokenGrammar.Text.Quoted
import TokenGrammar.Token.Span

/-!
# Tokens

A token carries the serial number and the tag of the definition that produced it, and the text it
covers. A sequence of tokens also knows the size of its source, which is where its end lies.
-/

namespace TokenGrammar

structure Token where
  id : Serial
  tag : String
  text : String
  span : Span
deriving DecidableEq, Repr

namespace Token

def describe (token : Token) : String :=
  token.tag ++ "(" ++ Text.quoted token.text ++ ") @ " ++ token.span.describe

end Token

structure TokenSequence where
  tokens : Array Token
  /-- The number of bytes of the source. -/
  sourceSize : Nat
deriving DecidableEq, Repr

namespace TokenSequence

def size (sequence : TokenSequence) : Nat := sequence.tokens.size

def isEmpty (sequence : TokenSequence) : Bool := sequence.tokens.isEmpty

def get? (sequence : TokenSequence) (index : Nat) : Option Token := sequence.tokens[index]?

def fetch (sequence : TokenSequence) (index : Nat) : Except Fault Token :=
  match sequence.get? index with
  | some token => .ok token
  | none => .error (.indexOutOfBounds sequence.size index)

/-- The byte offset where a token starts, or the end of the source if there is no such token. -/
def offsetOf (sequence : TokenSequence) (index : Nat) : Nat :=
  match sequence.get? index with
  | some token => token.span.start.toNat
  | none => sequence.sourceSize

end TokenSequence

end TokenGrammar
