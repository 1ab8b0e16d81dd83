import TokenGrammar.Payload.Value
import TokenGrammar.Session

/-!
# Plans

A parser of payloads written down as data. `Plan.toParser` is the parser that a plan describes.
-/

namespace TokenGrammar.Payload

inductive Plan where
  | token (kind : Kind Value)
  | oneOf (kind : Kind Value) (texts : List String)
  | seq (first second : Plan)
  | thenIgnore (first second : Plan)
  | ignoreThen (first second : Plan)
  | alt (first second : Plan)
  | either (first second : Plan)
  | many (item : Plan)
  | many1 (item : Plan)
  | exclude (inner excluded : Plan)
  | discard (inner : Plan)
  | optional (inner : Plan)
  | map (transform : Transform) (inner : Plan)
  | rule (handle : Rule)
  | unskipped (inner : Plan)
  /-- Matches without moving. -/
  | succeed
  /-- Refuses every token. -/
  | fail
  /-- Moves to a fixed cursor, in either direction and also past the end. -/
  | jump (target : Nat)
  | anyToken
  /-- Matches without moving and tells what can be seen. -/
  | inspect

namespace Plan

/-- The text of the next token that is not skipped. -/
def takeAny (surroundings : Surroundings) (cursor : Nat) : Attempt Value :=
  (surroundings.skipFrom cursor).andThen fun _ start =>
    match surroundings.tokenAt start with
    | some found => Attempt.matched (.text found.text) (start + 1)
    | none => Attempt.refused start

def look (surroundings : Surroundings) (cursor : Nat) : Attempt Value := fun progress =>
  Attempt.matched
    (.probe cursor surroundings.finish progress.furthest surroundings.ruleCount) cursor progress

def toParser : Plan → Parser Value Value
  | token kind => .token kind
  | oneOf kind texts => .oneOf kind texts
  | seq first second =>
    .map (fun (left, right) => .pair left right) (.seq first.toParser second.toParser)
  | thenIgnore first second => .thenIgnore first.toParser second.toParser
  | ignoreThen first second => .ignoreThen first.toParser second.toParser
  | alt first second => .alt first.toParser second.toParser
  | either first second =>
    .map (Sum.elim Value.left Value.right) (.either first.toParser second.toParser)
  | many item => .map Value.list (.many item.toParser)
  | many1 item => .map Value.list (.many1 item.toParser)
  | exclude inner excluded => .exclude inner.toParser excluded.toParser
  | discard inner => .map (fun _ => .unit) (.discard inner.toParser)
  | optional inner => .map (fun value => value.elim .none Value.some) (.optional inner.toParser)
  | map transform inner => .map transform.apply inner.toParser
  | rule handle => .rule handle
  | unskipped inner => .unskipped inner.toParser
  | succeed => .custom fun _ cursor => Attempt.matched .unit cursor
  | fail => .custom fun _ cursor => Attempt.refused cursor
  | jump target => .custom fun _ _ => Attempt.matched .unit target
  | anyToken => .custom takeAny
  | inspect => .custom look

end Plan

def session (grammar : Grammar Plan) (tokens : TokenSequence) : Session Value :=
  ⟨grammar.map Plan.toParser, tokens⟩

def skipParser (plan : Plan) : Parser Value Unit := .discard plan.toParser

/-- A parser to match, where, and in which ways: as far as it goes, against everything, or both. -/
structure Inquiry where
  parser : Plan
  skip? : Option Plan
  start : Nat
  finish? : Option Nat
  wantsRun : Bool
  wantsAll : Bool

/-- The number of tokens, and what matching as far as possible and matching everything gave. -/
structure Answer where
  tokens : Nat
  run? : Option (Match Value)
  all? : Option (Except SyntaxError Value)

def inquire (lexicon : Lexicon) (grammar : Grammar Plan) (inquiry : Inquiry) (source : String) :
    Traced (Except ScanError Answer) := do
  match ← lexicon.tracedScan source with
  | .error error => return .error error
  | .ok tokens =>
    let session := session grammar tokens
    let skip? := inquiry.skip?.map skipParser
    let parser := inquiry.parser.toParser
    let run? ←
      if inquiry.wantsRun then
        some <$> session.run parser inquiry.start (inquiry.finish?.getD tokens.size) skip?
      else pure none
    let all? ← if inquiry.wantsAll then some <$> session.parseAll parser skip? else pure none
    return .ok ⟨tokens.size, run?, all?⟩

end TokenGrammar.Payload
