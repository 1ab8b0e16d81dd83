import TokenGrammar.Parser.Run

/-!
# Sessions

Matching parsers against a sequence of tokens under a grammar: either as far as they go, or against
the whole sequence with a report of the first token that does not fit.
-/

namespace TokenGrammar

inductive SyntaxError where
  | unexpectedToken (offset : Nat) (found : String)
  | unexpectedEnd (offset : Nat)
deriving DecidableEq, Repr

namespace SyntaxError

/-- The error for the token at a position, or for the end if there is no such token. -/
def ofPosition (tokens : TokenSequence) (position : Nat) : SyntaxError :=
  match tokens.get? position with
  | some token => unexpectedToken (tokens.offsetOf position) token.text
  | none => unexpectedEnd (tokens.offsetOf position)

def offset : SyntaxError → Nat
  | unexpectedToken offset _ => offset
  | unexpectedEnd offset => offset

def found? : SyntaxError → Option String
  | unexpectedToken _ found => some found
  | unexpectedEnd _ => none

def message : SyntaxError → String
  | unexpectedToken offset found => s!"syntax error at offset {offset}: unexpected `{found}`"
  | unexpectedEnd offset => s!"syntax error at offset {offset}: unexpected end of input"

end SyntaxError

/-- The value of a match if there is one, the cursor after it, and the furthest position reached. -/
structure Match (α : Type) where
  value? : Option α
  cursor : Nat
  furthest : Nat
deriving DecidableEq, Repr

/-- An attempt that ran out of steps counts as no match here; whether it did is told by
`Session.Ends`. -/
def Match.ofOutcome {α : Type} (start : Nat) : Outcome α × Progress → Match α
  | (.matched value next, progress) => ⟨some value, next, max next progress.furthest⟩
  | (_, progress) => ⟨none, start, progress.furthest⟩

structure Session (ρ : Nat → Type) where
  grammar : Grammar (RuleBody ρ)
  tokens : TokenSequence

namespace Session

variable {ρ : Nat → Type} {α : Type}

def standalone (tokens : TokenSequence) : Session ρ := ⟨Grammar.empty, tokens⟩

/-- How deeply attempts may nest. In a run that ends, no part of a parser is entered at a cursor
while it is being tried there, with or without skipping, so the parts times the cursors bound the
depth. -/
def allowance (session : Session ρ) (parser : Parser ρ α) (skip? : Option (Parser ρ Unit)) : Nat :=
  let bodies := session.grammar.rules.foldr (fun rule total => rule.erased.body.size + total) 0
  let parts := parser.size + (skip?.map Parser.size).getD 0 + bodies + 1
  let cursors := session.tokens.size + parts + 2
  2 * (session.grammar.size + 2) * parts * cursors

def run (session : Session ρ) (parser : Parser ρ α) (start finish : Nat)
    (skip? : Option (Parser ρ Unit)) : Traced (Match α) :=
  let setting := Setting.new session.tokens finish session.grammar skip?
  let result := parser.run (session.allowance parser skip?) setting start ⟨start, []⟩
  ⟨Match.ofOutcome start result, result.2.events.reverse⟩

/-- The run comes to an answer within its allowance. -/
def Ends (session : Session ρ) (parser : Parser ρ α) (start finish : Nat)
    (skip? : Option (Parser ρ Unit)) : Prop :=
  let setting := Setting.new session.tokens finish session.grammar skip?
  (parser.run (session.allowance parser skip?) setting start ⟨start, []⟩).1 ≠ .exhausted

def parseAll (session : Session ρ) (parser : Parser ρ α) (skip? : Option (Parser ρ Unit)) :
    Traced (Except SyntaxError α) :=
  let fuel := session.allowance parser skip?
  let setting := Setting.new session.tokens session.tokens.size session.grammar skip?
  let attempt := (parser.run fuel setting 0).andThen fun value next =>
    (Parser.skipFrom fuel setting next).map fun _ => value
  let (outcome, progress) := attempt ⟨0, []⟩
  let fail := fun position =>
    let error := SyntaxError.ofPosition session.tokens position
    (⟨.error error, (progress.record (.parseFailed error.message)).events.reverse⟩ :
      Traced (Except SyntaxError α))
  match outcome with
  | .matched value rest =>
    if rest = session.tokens.size then ⟨.ok value, progress.events.reverse⟩
    else fail (max rest progress.furthest)
  | _ => fail progress.furthest

/-- Matching all tokens comes to an answer: the parser does, and what is skipped behind it. -/
def EndsAll (session : Session ρ) (parser : Parser ρ α) (skip? : Option (Parser ρ Unit)) : Prop :=
  let fuel := session.allowance parser skip?
  let setting := Setting.new session.tokens session.tokens.size session.grammar skip?
  let attempt := (parser.run fuel setting 0).andThen fun value next =>
    (Parser.skipFrom fuel setting next).map fun _ => value
  (attempt ⟨0, []⟩).1 ≠ .exhausted

end Session

end TokenGrammar
