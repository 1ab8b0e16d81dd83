import TokenGrammar.Text.Hidden

/-!
# Quoted text

A text in double quotes, with quotes, backslashes and all characters that do not show on their own
written as escapes.
-/

namespace TokenGrammar.Text

def hexDigits (n : Nat) : List Char := Nat.toDigits 16 n

/-- The escape of a character by its code point, in lower-case hexadecimal digits. -/
def codeEscape (c : Char) : List Char := ['\\', 'u', '\x7b'] ++ hexDigits c.toNat ++ ['\x7d']

def escape (c : Char) : List Char :=
  if c = '"' then ['\\', '"']
  else if c = '\\' then ['\\', '\\']
  else if c = '\t' then ['\\', 't']
  else if c = '\n' then ['\\', 'n']
  else if c = '\r' then ['\\', 'r']
  else if c = '\x00' then ['\\', '0']
  else if isHidden c then codeEscape c
  else [c]

def quote (text : List Char) : List Char := '"' :: text.flatMap escape ++ ['"']

def quoted (text : String) : String := String.ofList (quote text.toList)

def quotedList (texts : List String) : String :=
  "[" ++ String.intercalate ", " (texts.map quoted) ++ "]"

end TokenGrammar.Text
