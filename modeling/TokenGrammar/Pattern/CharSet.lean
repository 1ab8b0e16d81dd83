import TokenGrammar.Text.Folding
import TokenGrammar.Text.Property

/-!
# Sets of characters

What a bracketed class or a class escape stands for, kept as the expression that was written. The
only reading of it is `contains`.
-/

namespace TokenGrammar

inductive CharSet where
  | empty
  | range (low high : Char)
  /-- A property of characters, by its table. -/
  | table (ranges : List (Nat × Nat))
  | union (left right : CharSet)
  | inter (left right : CharSet)
  | diff (left right : CharSet)
  | symmDiff (left right : CharSet)
  | compl (members : CharSet)
  /-- The characters that differ from a member at most in case. -/
  | caseClosure (runs : List Text.FoldRun) (members : CharSet)
deriving DecidableEq, Repr

namespace CharSet

def contains : CharSet → Char → Bool
  | empty, _ => false
  | range low high, c => low ≤ c && c ≤ high
  | table ranges, c => Text.inRanges ranges c.toNat
  | union left right, c => left.contains c || right.contains c
  | inter left right, c => left.contains c && right.contains c
  | diff left right, c => left.contains c && !right.contains c
  | symmDiff left right, c => left.contains c != right.contains c
  | compl members, c => !members.contains c
  | caseClosure runs members, c =>
    members.contains c || (Text.caseVariants runs c).any members.contains

def single (c : Char) : CharSet := range c c

def ofRanges : List (Char × Char) → CharSet
  | [] => empty
  | [(low, high)] => range low high
  | (low, high) :: rest => union (range low high) (ofRanges rest)

def unionAll : List CharSet → CharSet
  | [] => empty
  | [members] => members
  | members :: rest => union members (unionAll rest)

def blank : CharSet := table Text.blankRanges

def any : CharSet := compl empty

def ascii : CharSet := range '\x00' '\x7f'

def lineFeed : CharSet := single '\n'

@[simp] theorem contains_single (c d : Char) : (single c).contains d = decide (d = c) := by
  simp only [single, contains]
  by_cases h : d = c
  · subst h; simp
  · simp only [h, decide_false, Bool.and_eq_false_iff, decide_eq_false_iff_not]
    by_cases hle : c ≤ d
    · exact Or.inr fun hge => h (Char.le_antisymm hge hle)
    · exact Or.inl hle

/-! ### Classes by name -/

def asciiDigit : CharSet := range '0' '9'

def asciiLower : CharSet := range 'a' 'z'

def asciiUpper : CharSet := range 'A' 'Z'

def asciiAlpha : CharSet := union asciiUpper asciiLower

def asciiWord : CharSet := ofRanges [('0', '9'), ('A', 'Z'), ('_', '_'), ('a', 'z')]

def asciiBlank : CharSet := ofRanges [('\t', '\r'), (' ', ' ')]

def named? (name : String) : Option CharSet :=
  match name with
  | "alnum" => some (union asciiDigit asciiAlpha)
  | "alpha" => some asciiAlpha
  | "ascii" => some ascii
  | "blank" => some (ofRanges [('\t', '\t'), (' ', ' ')])
  | "cntrl" => some (ofRanges [('\x00', '\x1f'), ('\x7f', '\x7f')])
  | "digit" => some asciiDigit
  | "graph" => some (range '!' '~')
  | "lower" => some asciiLower
  | "print" => some (range ' ' '~')
  | "punct" => some (ofRanges [('!', '/'), (':', '@'), ('[', '\x60'), ('\x7b', '~')])
  | "space" => some asciiBlank
  | "upper" => some asciiUpper
  | "word" => some asciiWord
  | "xdigit" => some (ofRanges [('0', '9'), ('A', 'F'), ('a', 'f')])
  | _ => none

end CharSet

end TokenGrammar
