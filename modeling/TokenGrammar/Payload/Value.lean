import TokenGrammar.Text.Numeral

/-!
# Payloads

One type of values for grammars that are put together while the program runs, with the decoders that
turn the text of a token into such a value and the functions that parsers may apply to them.
-/

namespace TokenGrammar.Payload

inductive Value where
  | unit
  | none
  | int (n : Int64)
  | text (text : String)
  | char (c : Char)
  | pair (first second : Value)
  | list (items : List Value)
  | left (value : Value)
  | right (value : Value)
  | some (value : Value)
  | wrap (value : Value)
  | probe (cursor finish furthest rules : Nat)
deriving Repr, Inhabited

inductive Decoder where
  | unit
  | text
  | char
  | int
  | octet
  | hex
  | never
deriving DecidableEq, Repr

def Decoder.read : Decoder → String → Option Value
  | unit, _ => Option.some .unit
  | text, t => Option.some (.text t)
  | char, t => t.toList.head?.map .char
  | int, t => (Text.int64? 10 t.toList).map .int
  | octet, t => (Text.octet? t.toList).map fun n => .int (Int64.ofNat n.toNat)
  | hex, t => (Text.markedHex? t.toList).map .int
  | never, _ => Option.none

inductive Transform where
  | succ
  | count
  | wrap
  | swap
  | addAll
  | mulAll
  | binary
deriving DecidableEq, Repr

namespace Value

def int? : Value → Option Int64
  | int n => Option.some n
  | _ => Option.none

def ints? (items : List Value) : Option (List Int64) := items.mapM int?

/-- The result of an operator on two integers; overflow wraps and division drops the fraction. -/
def operate? (left : Int64) (operator : String) (right : Int64) : Option Int64 :=
  match operator with
  | "+" => Option.some (left + right)
  | "-" => Option.some (left - right)
  | "*" => Option.some (left * right)
  | "/" => if right = 0 then Option.none else Option.some (left / right)
  | _ => Option.none

/-- A list of integers folded onto the integer before it; any other value is left as it is. -/
def foldInts (f : Int64 → Int64 → Int64) (value : Value) : Value :=
  match value with
  | pair (int first) (list items) =>
    match ints? items with
    | Option.some ints => int (ints.foldl f first)
    | Option.none => value
  | _ => value

end Value

def Transform.apply (transform : Transform) (value : Value) : Value :=
  match transform, value with
  | succ, .int n => .int (n + 1)
  | succ, _ => .int 0
  | count, .list items => .int (Int64.ofNat items.length)
  | count, _ => .int 1
  | wrap, _ => .wrap value
  | swap, .pair first second => .pair second first
  | swap, _ => value
  | addAll, _ => value.foldInts (· + ·)
  | mulAll, _ => value.foldInts (· * ·)
  | binary, .pair (.pair (.int left) (.text operator)) (.int right) =>
    match Value.operate? left operator right with
    | Option.some result => .int result
    | Option.none => value
  | binary, _ => value

end TokenGrammar.Payload
