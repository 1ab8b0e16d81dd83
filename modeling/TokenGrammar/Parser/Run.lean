import TokenGrammar.Parser.Basic

/-!
# Running parsers

`Parser.run` tries a parser at a cursor. Its first argument bounds how deeply attempts may nest; a
run that needs more is reported as exhausted and not as a failure.
-/

namespace TokenGrammar

/-- What stays the same during an attempt. -/
structure Setting (ρ : Nat → Type) where
  tokens : TokenSequence
  /-- The position before which tokens are seen. -/
  finish : Nat
  grammar : Grammar (RuleBody ρ)
  /-- What may be passed over before a token. -/
  skip? : Option (Parser ρ Unit)

namespace Setting

variable {ρ : Nat → Type}

/-- The end bound is never past the last token. -/
def new (tokens : TokenSequence) (finish : Nat) (grammar : Grammar (RuleBody ρ))
    (skip? : Option (Parser ρ Unit)) : Setting ρ :=
  ⟨tokens, min finish tokens.size, grammar, skip?⟩

def tokenAt (setting : Setting ρ) (cursor : Nat) : Option Token :=
  if cursor < setting.finish then setting.tokens.get? cursor else none

def withoutSkip (setting : Setting ρ) : Setting ρ := { setting with skip? := none }

end Setting

/-- Repeats an attempt from where it last ended for as long as it matches and advances. -/
def Attempt.chain (attempt : Nat → Attempt Unit) : Nat → Nat → Attempt Unit
  | 0, _ => Attempt.exhausted
  | fuel + 1, cursor =>
    (attempt cursor).resume
      (fun _ next =>
        if cursor < next then Attempt.chain attempt fuel next else Attempt.matched () cursor)
      (Attempt.matched () cursor)

namespace Parser

variable {ρ : Nat → Type}

def take {α : Type} (setting : Setting ρ) (wanted : Primitive α) (cursor : Nat) : Attempt α :=
  match setting.tokenAt cursor with
  | none => Attempt.refused cursor
  | some token =>
    match wanted.decode token with
    | none => Attempt.refused cursor
    | some value =>
      (Attempt.matched value (cursor + 1)).after (.tokenMatched token.tag token.text cursor)

def enter {α : Type} (name : String) (cursor : Nat) (body : Attempt α) : Attempt α :=
  Attempt.after (.enteredRule name cursor) <|
    body.resume
      (fun value next => (Attempt.matched value next).after (.leftRule name true next))
      (Attempt.failed.after (.leftRule name false cursor))

def run : Nat → Setting ρ → {α : Type} → Parser ρ α → Nat → Attempt α
  | 0, _, _, _, _ => Attempt.exhausted
  | fuel + 1, setting, _, parser, cursor =>
    let skipFrom := fun cursor =>
      match setting.skip? with
      | none => Attempt.matched () cursor
      | some skip => Attempt.chain (run fuel setting.withoutSkip skip) fuel cursor
    match parser with
    | primitive wanted => (skipFrom cursor).andThen fun _ start => take setting wanted start
    | seq first second =>
      (run fuel setting first cursor).andThen fun left middle =>
        (run fuel setting second middle).map fun right => (left, right)
    | thenIgnore first second =>
      (run fuel setting first cursor).andThen fun left middle =>
        (run fuel setting second middle).map fun _ => left
    | ignoreThen first second =>
      (run fuel setting first cursor).andThen fun _ middle => run fuel setting second middle
    | alt first second =>
      (run fuel setting first cursor).orElse (run fuel setting second cursor)
    | either first second =>
      ((run fuel setting first cursor).map Sum.inl).orElse
        ((run fuel setting second cursor).map Sum.inr)
    | many item =>
      (run fuel setting item cursor).resume
        (fun value next =>
          if cursor < next then (run fuel setting (many item) next).map (value :: ·)
          else Attempt.matched [value] cursor)
        (Attempt.matched [] cursor)
    | many1 item =>
      (run fuel setting (many item) cursor).andThen fun values next =>
        if values.isEmpty then Attempt.failed else Attempt.matched values next
    | exclude inner excluded =>
      (run fuel setting inner cursor).andThen fun value next =>
        (run fuel setting excluded cursor).resume
          (fun _ _ => Attempt.failed) (Attempt.matched value next)
    | discard inner => (run fuel setting inner cursor).map fun _ => ()
    | optional inner =>
      ((run fuel setting inner cursor).map some).orElse (Attempt.matched none cursor)
    | map f inner => (run fuel setting inner cursor).map f
    | rule handle =>
      match setting.grammar.body? handle with
      | none => Attempt.failed.after (.unknownRule handle.name)
      | some body => enter handle.name cursor (run fuel setting body cursor)
    | unskipped inner => run fuel setting.withoutSkip inner cursor
    | custom act =>
      act ⟨setting.tokenAt, setting.finish, setting.grammar.size, skipFrom⟩ cursor

def skipFrom (fuel : Nat) (setting : Setting ρ) (cursor : Nat) : Attempt Unit :=
  match setting.skip? with
  | none => Attempt.matched () cursor
  | some skip => Attempt.chain (run fuel setting.withoutSkip skip) fuel cursor

/-! ### What each parser tries -/

section Run

variable {α β : Type} (fuel : Nat) (setting : Setting ρ) (cursor : Nat)

theorem run_primitive (wanted : Primitive α) :
    run (fuel + 1) setting (primitive wanted) cursor =
      (skipFrom fuel setting cursor).andThen fun _ start => take setting wanted start := rfl

theorem run_seq (first : Parser ρ α) (second : Parser ρ β) :
    run (fuel + 1) setting (seq first second) cursor =
      (run fuel setting first cursor).andThen fun left middle =>
        (run fuel setting second middle).map fun right => (left, right) := rfl

theorem run_thenIgnore (first : Parser ρ α) (second : Parser ρ β) :
    run (fuel + 1) setting (thenIgnore first second) cursor =
      (run fuel setting first cursor).andThen fun left middle =>
        (run fuel setting second middle).map fun _ => left := rfl

theorem run_ignoreThen (first : Parser ρ α) (second : Parser ρ β) :
    run (fuel + 1) setting (ignoreThen first second) cursor =
      (run fuel setting first cursor).andThen fun _ middle => run fuel setting second middle := rfl

theorem run_alt (first second : Parser ρ α) :
    run (fuel + 1) setting (alt first second) cursor =
      (run fuel setting first cursor).orElse (run fuel setting second cursor) := rfl

theorem run_either (first : Parser ρ α) (second : Parser ρ β) :
    run (fuel + 1) setting (either first second) cursor =
      ((run fuel setting first cursor).map Sum.inl).orElse
        ((run fuel setting second cursor).map Sum.inr) := rfl

theorem run_many (item : Parser ρ α) :
    run (fuel + 1) setting (many item) cursor =
      (run fuel setting item cursor).resume
        (fun value next =>
          if cursor < next then (run fuel setting (many item) next).map (value :: ·)
          else Attempt.matched [value] cursor)
        (Attempt.matched [] cursor) := rfl

theorem run_many1 (item : Parser ρ α) :
    run (fuel + 1) setting (many1 item) cursor =
      (run fuel setting (many item) cursor).andThen fun values next =>
        if values.isEmpty then Attempt.failed else Attempt.matched values next := rfl

theorem run_exclude (inner : Parser ρ α) (excluded : Parser ρ β) :
    run (fuel + 1) setting (exclude inner excluded) cursor =
      (run fuel setting inner cursor).andThen fun value next =>
        (run fuel setting excluded cursor).resume
          (fun _ _ => Attempt.failed) (Attempt.matched value next) := rfl

theorem run_discard (inner : Parser ρ α) :
    run (fuel + 1) setting (discard inner) cursor =
      (run fuel setting inner cursor).map fun _ => () := rfl

theorem run_optional (inner : Parser ρ α) :
    run (fuel + 1) setting (optional inner) cursor =
      ((run fuel setting inner cursor).map some).orElse (Attempt.matched none cursor) := rfl

theorem run_map (f : α → β) (inner : Parser ρ α) :
    run (fuel + 1) setting (map f inner) cursor = (run fuel setting inner cursor).map f := rfl

theorem run_rule (handle : Rule) :
    run (fuel + 1) setting (rule handle) cursor =
      match setting.grammar.body? handle with
      | none => Attempt.failed.after (.unknownRule handle.name)
      | some body => enter handle.name cursor (run fuel setting body cursor) := rfl

end Run

end Parser

end TokenGrammar
