import TokenGrammar.Token.Basic

/-!
# Kinds of tokens

The handle that a definition gives out: it recognises the tokens of that definition by their id and
turns their text into a value.
-/

namespace TokenGrammar

structure Kind (α : Type) where
  id : Serial
  tag : String
  read : String → Option α

namespace Kind

variable {α : Type}

def accepts (kind : Kind α) (token : Token) : Bool := token.id = kind.id

def decode (kind : Kind α) (token : Token) : Option α :=
  if kind.accepts token then kind.read token.text else none

def describe (kind : Kind α) : String :=
  s!"TokenKind \x7b id: TokenId({kind.id.index}), tag: " ++ Text.quoted kind.tag ++ ", .. \x7d"

theorem accepts_iff {kind : Kind α} {token : Token} :
    kind.accepts token = true ↔ token.id.index = kind.id.index := by
  rw [accepts, decide_eq_true_eq, Serial.index_inj]

theorem decode_eq (kind : Kind α) (token : Token) :
    kind.decode token = if token.id.index = kind.id.index then kind.read token.text else none := by
  rw [decode]
  simp only [accepts_iff]

end Kind

end TokenGrammar
