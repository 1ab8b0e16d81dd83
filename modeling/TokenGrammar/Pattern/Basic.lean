import TokenGrammar.Pattern.CharSet

/-!
# Patterns

Regular expressions with ordered alternatives and greedy or reluctant repetition, and the places in
a text that they speak about.
-/

namespace TokenGrammar

/-- A place in a text: how many characters lie before it, the last of them, and those after it. -/
structure Place where
  index : Nat
  before : Option Char
  rest : List Char

namespace Place

def start (text : List Char) : Place := ⟨0, none, text⟩

def after (place : Place) (c : Char) (rest : List Char) : Place := ⟨place.index + 1, some c, rest⟩

def next (place : Place) : Option Char := place.rest.head?

end Place

inductive Anchor where
  | textStart
  | textEnd
  | lineStart
  | lineEnd
  /-- Starts and ends of lines where a carriage return ends a line as well. -/
  | returnLineStart
  | returnLineEnd
  | wordEdge (letters : CharSet)
  | noWordEdge (letters : CharSet)
  | wordStart (letters : CharSet)
  | wordEnd (letters : CharSet)
  | wordStartHalf (letters : CharSet)
  | wordEndHalf (letters : CharSet)
deriving DecidableEq, Repr

namespace Anchor

def holds (anchor : Anchor) (place : Place) : Bool :=
  match anchor with
  | textStart => place.before.isNone
  | textEnd => place.next.isNone
  | lineStart => place.before.isNone || place.before == some '\n'
  | lineEnd => place.next.isNone || place.next == some '\n'
  | returnLineStart =>
    place.before.isNone || place.before == some '\n' ||
      (place.before == some '\r' && place.next != some '\n')
  | returnLineEnd =>
    place.next.isNone || place.next == some '\r' ||
      (place.next == some '\n' && place.before != some '\r')
  | wordEdge letters => place.before.any letters.contains != place.next.any letters.contains
  | noWordEdge letters => place.before.any letters.contains == place.next.any letters.contains
  | wordStart letters => !place.before.any letters.contains && place.next.any letters.contains
  | wordEnd letters => place.before.any letters.contains && !place.next.any letters.contains
  | wordStartHalf letters => !place.before.any letters.contains
  | wordEndHalf letters => !place.next.any letters.contains

end Anchor

inductive Pattern where
  | empty
  | set (members : CharSet)
  | anchor (condition : Anchor)
  | seq (first second : Pattern)
  | alt (first second : Pattern)
  /-- At least `least` and at most `most` times the body, as many as possible if `greedy`. -/
  | repeated (body : Pattern) (least : Nat) (most : Option Nat) (greedy : Bool)
deriving DecidableEq, Repr

namespace Pattern

def seqAll : List Pattern → Pattern
  | [] => empty
  | [pattern] => pattern
  | pattern :: rest => seq pattern (seqAll rest)

def anchored : Pattern → Bool
  | empty => false
  | set _ => false
  | anchor condition => condition = .textStart
  | seq first _ => first.anchored
  | alt first second => first.anchored && second.anchored
  | repeated body least _ _ => 0 < least && body.anchored

end Pattern

end TokenGrammar
