import TokenGrammar.Text.Bytes

/-!
# Written integers

An optional sign and one or more digits of a base, and nothing else.
-/

namespace TokenGrammar.Text

/-- The value of a digit in bases up to sixteen; letters count in both cases. -/
def digitValue? (base : Nat) (c : Char) : Option Nat :=
  let value :=
    if '0' ≤ c ∧ c ≤ '9' then c.toNat - '0'.toNat
    else if 'a' ≤ c ∧ c ≤ 'f' then c.toNat - 'a'.toNat + 10
    else if 'A' ≤ c ∧ c ≤ 'F' then c.toNat - 'A'.toNat + 10
    else base
  if value < base then some value else none

/-- The number that the digits denote, read on from the value of the digits before them. -/
def digitsFrom? (base : Nat) : Nat → List Char → Option Nat
  | value, [] => some value
  | value, c :: rest => do digitsFrom? base (value * base + (← digitValue? base c)) rest

def natural? (base : Nat) : List Char → Option Nat
  | [] => none
  | digits => digitsFrom? base 0 digits

def integer? (base : Nat) : List Char → Option Int
  | '+' :: digits => (natural? base digits).map Int.ofNat
  | '-' :: digits => (natural? base digits).map fun n => -Int.ofNat n
  | digits => (natural? base digits).map Int.ofNat

def toInt64? (n : Int) : Option Int64 :=
  if Int64.minValue.toInt ≤ n ∧ n ≤ Int64.maxValue.toInt then some (Int64.ofInt n) else none

def int64? (base : Nat) (text : List Char) : Option Int64 := (integer? base text).bind toInt64?

/-- A base-sixteen integer after two bytes that are not looked at. -/
def markedHex? (text : List Char) : Option Int64 :=
  (splitAtByte? 2 text).bind fun (_, digits) => int64? 16 digits

/-- A number up to 255; a minus sign is refused even before zero. -/
def octet? : List Char → Option UInt8
  | '+' :: digits => (natural? 10 digits).bind fun n => if n < 256 then some n.toUInt8 else none
  | digits => (natural? 10 digits).bind fun n => if n < 256 then some n.toUInt8 else none

end TokenGrammar.Text
