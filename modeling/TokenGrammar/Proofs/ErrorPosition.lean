import TokenGrammar.Proofs.Parser.Coverage
import TokenGrammar.Proofs.WholeMatch

/-!
# What the furthest position leaves out

The furthest position of a run covers all that was matched on the way, unless it is lost, and errors
of matching all tokens are reported there or further on. Nothing is lost where attempts fail only by
refusing tokens. Where something is, an error can stand before a token that was taken.
-/

namespace TokenGrammar

theorem Match.furthest_ofOutcome {α : Type} (start : Nat) (result : Outcome α × Progress) :
    (ofOutcome start result).furthest = Attempt.noted result := by
  obtain ⟨outcome, progress⟩ := result
  cases outcome <;> rfl

namespace Parser

variable {ρ : Nat → Type}

/-- Fails only where a token is refused: nothing is excluded in it, and its rules are known. -/
def FailsOpenly (grammar : Grammar (RuleBody ρ)) : {α : Type} → Parser ρ α → Prop
  | _, primitive _ => True
  | _, seq first second => first.FailsOpenly grammar ∧ second.FailsOpenly grammar
  | _, thenIgnore first second => first.FailsOpenly grammar ∧ second.FailsOpenly grammar
  | _, ignoreThen first second => first.FailsOpenly grammar ∧ second.FailsOpenly grammar
  | _, alt first second => first.FailsOpenly grammar ∧ second.FailsOpenly grammar
  | _, either first second => first.FailsOpenly grammar ∧ second.FailsOpenly grammar
  | _, many item => item.FailsOpenly grammar
  | _, many1 item => item.FailsOpenly grammar
  | _, exclude _ _ => False
  | _, discard inner => inner.FailsOpenly grammar
  | _, optional inner => inner.FailsOpenly grammar
  | _, map _ inner => inner.FailsOpenly grammar
  | _, rule handle => (grammar.body? handle).isSome
  | _, unskipped _ => False
  | _, custom _ => False

theorem FailsOpenly.isLibrary {grammar : Grammar (RuleBody ρ)} {α : Type} {parser : Parser ρ α}
    (h : parser.FailsOpenly grammar) : parser.IsLibrary := by
  induction parser with
  | primitive | rule => trivial
  | seq _ _ ih ih' | thenIgnore _ _ ih ih' | ignoreThen _ _ ih ih' | alt _ _ ih ih'
    | either _ _ ih ih' => exact ⟨ih h.1, ih' h.2⟩
  | many _ ih | many1 _ ih | discard _ ih | optional _ ih | map _ _ ih => exact ih h
  | exclude | unskipped | custom => exact h.elim

end Parser

/-- All bodies of the grammar fail only where a token is refused, and so does the skip parser. -/
structure Setting.FailsOpenly {ρ : Nat → Type} (setting : Setting ρ) : Prop where
  bodies : ∀ rule ∈ setting.grammar.rules, rule.erased.body.FailsOpenly setting.grammar
  skip : ∀ skip, setting.skip? = some skip → skip.FailsOpenly setting.grammar

namespace Parser

variable {ρ : Nat → Type} {setting : Setting ρ} {stage next : Stage ρ}

theorem Begins.failsOpenly (hsetting : setting.FailsOpenly) {α β : Type} {parser : Parser ρ α}
    {first : Parser ρ β} (hbegins : Begins setting.grammar parser first)
    (hparser : parser.FailsOpenly setting.grammar) : first.FailsOpenly setting.grammar := by
  cases hbegins with
  | seq | thenIgnore | ignoreThen | alt | either => exact hparser.1
  | exclude => exact hparser.elim
  | many | many1 | discard | optional | map => exact hparser
  | rule hbody =>
    obtain ⟨rule, hmem, herased⟩ := Grammar.exists_mem_rules_of_body? hbody
    have hopen := hsetting.bodies rule hmem
    rw [herased] at hopen
    exact hopen

theorem Tries.failsOpenly (hsetting : setting.FailsOpenly) (htries : Tries setting stage next)
    (hstage : stage.part.2.FailsOpenly setting.grammar) :
    next.part.2.FailsOpenly setting.grammar := by
  cases htries with
  | skips hskip => exact hsetting.skip _ hskip
  | begins hbegins => exact hbegins.failsOpenly hsetting hstage
  | follows hfollows => cases hfollows <;> exact hstage.2
  | repeats => exact hstage
  | chooses hchooses => cases hchooses <;> exact hstage.2
  | excludes => exact hstage.elim

theorem Makes.failsOpenly (hsetting : setting.FailsOpenly) (hmakes : Makes setting stage next)
    (hstage : stage.part.2.FailsOpenly setting.grammar) :
    next.part.2.FailsOpenly setting.grammar := by
  induction hmakes with
  | refl => exact hstage
  | tail _ htries ih => exact htries.failsOpenly hsetting ih

theorem not_lost_of_failsOpenly (hsetting : setting.FailsOpenly) {α : Type} {parser : Parser ρ α}
    (hparser : parser.FailsOpenly setting.grammar) {skipping : Bool} {cursor n : Nat} :
    ¬Lost setting ⟨skipping, ⟨α, parser⟩, cursor⟩ n := by
  rintro ⟨made, position, hmakes, hdrops, -⟩
  have hmade := hmakes.failsOpenly hsetting hparser
  cases hdrops with
  | excluded => exact hmade.elim
  | unknown hbody =>
    simp only [FailsOpenly, hbody, Option.isSome_none, Bool.false_eq_true] at hmade

end Parser

namespace Session

variable {ρ : Nat → Type} {α : Type} {session : Session ρ} {parser : Parser ρ α}
  {skip? : Option (Parser ρ Unit)}

section Library

variable (hgrammar : session.grammar.IsLibrary) (hparser : parser.IsLibrary)
  (hskip : ∀ skip, skip? = some skip → skip.IsLibrary)

include hgrammar hparser hskip

theorem run_furthest_covers {start finish : Nat}
    (hhalts : parser.Halts (Setting.new session.tokens finish session.grammar skip?) start)
    {n : Nat} (hreached : Parser.Reached
      (Setting.new session.tokens finish session.grammar skip?) ⟨true, ⟨α, parser⟩, start⟩ n) :
    n ≤ (session.run parser start finish skip?).value.furthest ∨
      Parser.Lost (Setting.new session.tokens finish session.grammar skip?)
        ⟨true, ⟨α, parser⟩, start⟩ n := by
  have hends := run_allowance_ne_exhausted hgrammar hparser hskip hhalts ⟨start, []⟩
  have hcovers := Parser.run_covers ⟨hgrammar, hskip⟩ (session.allowance parser skip?) true hparser
    start ⟨start, []⟩ hends
  rw [run, Match.furthest_ofOutcome]
  exact hcovers.2 n hreached

/-- The position of an error is not before the furthest one of a match as far as it goes. -/
theorem exists_position_of_error
    (hhalts : parser.Halts
      (Setting.new session.tokens session.tokens.size session.grammar skip?) 0)
    (hskipping : ∀ value,
      (session.run parser 0 session.tokens.size skip?).value.value? = some value →
        (Setting.new session.tokens session.tokens.size session.grammar skip?).SkippingHalts
          (session.run parser 0 session.tokens.size skip?).value.cursor)
    {error : SyntaxError} (herror : (session.parseAll parser skip?).value = .error error) :
    ∃ position, error.At session.tokens position ∧
      (session.run parser 0 session.tokens.size skip?).value.furthest ≤ position := by
  have hsetting :
      (Setting.new session.tokens session.tokens.size session.grammar skip?).IsLibrary :=
    ⟨hgrammar, hskip⟩
  obtain ⟨-, -, hlimit⟩ := run_value_within hgrammar hparser hskip hhalts
  rw [Nat.zero_max, Nat.min_self] at hlimit
  obtain ⟨outcome, reach, hne, hanswers⟩ := hhalts.answers hsetting hparser
  rw [run_value_of_answers hgrammar hparser hskip hanswers hne] at hskipping hlimit ⊢
  cases outcome with
  | exhausted => exact absurd rfl hne
  | failed =>
    rw [parseAll_value_of_answers_failed hgrammar hparser hskip hanswers] at herror
    cases herror
    simp only [Match.ofOutcome, Nat.zero_max] at hlimit ⊢
    exact ⟨reach, .ofPosition hlimit, Nat.le_refl reach⟩
  | matched value next =>
    obtain ⟨rest, reach', hlands⟩ := (hskipping value rfl).lands hsetting
    obtain ⟨hle, hrest, hreach'⟩ := hlands.within hsetting
    rw [parseAll_value_of_lands hgrammar hparser hskip hanswers hlands] at herror
    split at herror
    · cases herror
    · cases herror
      have hfinish : (Setting.new session.tokens session.tokens.size session.grammar skip?).finish =
          session.tokens.size := Nat.min_self _
      simp only [Match.ofOutcome, Nat.zero_max] at hle hrest hreach' hlimit ⊢
      exact ⟨_, .ofPosition (by omega), by omega⟩

end Library

/-- Where attempts fail only by refusing tokens, no match that is made in a run ends past the
furthest position. -/
theorem le_furthest_of_failsOpenly {start finish : Nat}
    (hsetting : (Setting.new session.tokens finish session.grammar skip?).FailsOpenly)
    (hparser : parser.FailsOpenly session.grammar)
    (hhalts : parser.Halts (Setting.new session.tokens finish session.grammar skip?) start)
    {stage : Parser.Stage ρ} (hmakes : Parser.Makes
      (Setting.new session.tokens finish session.grammar skip?) ⟨true, ⟨α, parser⟩, start⟩ stage)
    {value : stage.part.1} {next : Nat} (hyields : stage.Yields
      (Setting.new session.tokens finish session.grammar skip?) (.matched value next)) :
    next ≤ (session.run parser start finish skip?).value.furthest := by
  have hcovers := run_furthest_covers
    (fun rule hrule => (hsetting.bodies rule hrule).isLibrary) hparser.isLibrary
    (fun skip hskip => (hsetting.skip skip hskip).isLibrary) hhalts
    (Or.inr ⟨stage, hmakes, value, hyields⟩)
  exact hcovers.resolve_right (Parser.not_lost_of_failsOpenly hsetting hparser)

/-- **What the furthest position covers.** Let a library parser halt. The furthest position of its
run is not before the end of any match that was made in the run, also one that was given up again,
unless that is lost: the run has made an attempt there, or further on, that fails without a token
refused, an exclusion both of whose sides match or a rule that is not in the grammar. In the same
way an error of matching all tokens is not before a token that was taken. -/
theorem furthest_covers (session : Session ρ) (parser : Parser ρ α)
    (skip? : Option (Parser ρ Unit)) (hgrammar : session.grammar.IsLibrary)
    (hparser : parser.IsLibrary) (hskip : ∀ skip, skip? = some skip → skip.IsLibrary) :
    (∀ start finish,
      let setting := Setting.new session.tokens finish session.grammar skip?
      let root : Parser.Stage ρ := ⟨true, ⟨α, parser⟩, start⟩
      parser.Halts setting start →
        ∀ stage, Parser.Makes setting root stage →
          ∀ value next, stage.Yields setting (.matched value next) →
            next ≤ (session.run parser start finish skip?).value.furthest ∨
              Parser.Lost setting root next) ∧
    (let setting := Setting.new session.tokens session.tokens.size session.grammar skip?
      let root : Parser.Stage ρ := ⟨true, ⟨α, parser⟩, 0⟩
      let result := (session.run parser 0 session.tokens.size skip?).value
      parser.Halts setting 0 →
        (∀ value, result.value? = some value → setting.SkippingHalts result.cursor) →
          ∀ error, (session.parseAll parser skip?).value = .error error →
            ∃ position, error.At session.tokens position ∧
              ∀ (skipping : Bool) (γ : Type) (wanted : Primitive γ) (cursor : Nat),
                Parser.Makes setting root ⟨skipping, ⟨γ, .primitive wanted⟩, cursor⟩ →
                  ∀ value token, Parser.Stage.Yields setting
                    ⟨skipping, ⟨γ, .primitive wanted⟩, cursor⟩ (.matched value (token + 1)) →
                      token < position ∨ Parser.Lost setting root (token + 1)) := by
  constructor
  · intro start finish setting root hhalts stage hmakes value next hyields
    exact run_furthest_covers hgrammar hparser hskip hhalts
      (Or.inr ⟨stage, hmakes, value, hyields⟩)
  · intro setting root result hhalts hskipping error herror
    obtain ⟨position, hat, hle⟩ :=
      exists_position_of_error hgrammar hparser hskip hhalts hskipping herror
    refine ⟨position, hat, fun skipping γ wanted cursor hmakes value token hyields => ?_⟩
    have hcovers := run_furthest_covers hgrammar hparser hskip hhalts
      (Or.inr ⟨_, hmakes, value, hyields⟩)
    exact hcovers.imp_left fun hfurthest => hfurthest.trans hle

/-- With blanks skipped, the letter of a pair that is given up is covered. Where a digit is excluded
behind a letter, it is refused as a blank, so its position shows, but its end is lost. -/
theorem furthest_covers_up_to_excluded_digit :
    let letter : Parser (String) String := .token ⟨0, "letter", some⟩
    let digit : Parser (String) String := .token ⟨2, "digit", some⟩
    let pairs := Parser.many (letter.seq letter)
    let parser := letter.seq (.exclude digit digit)
    let skip : Parser (String) Unit := .token ⟨1, "blank", fun _ => some ()⟩
    let session : Session (String) := ⟨Grammar.empty,
      ⟨#[⟨0, "letter", "a", .ofOffsets 0 1⟩, ⟨1, "blank", " ", .ofOffsets 1 2⟩,
        ⟨2, "digit", "7", .ofOffsets 2 3⟩], 3⟩⟩
    let setting := Setting.new session.tokens 3 session.grammar (some skip)
    (Parser.Makes setting ⟨true, ⟨_, pairs⟩, 0⟩ ⟨true, ⟨_, letter⟩, 0⟩ ∧
      Parser.Stage.Yields setting ⟨true, ⟨_, letter⟩, 0⟩ (.matched "a" 1) ∧
      (session.run pairs 0 3 (some skip)).value = ⟨some [], 0, 2⟩ ∧
      ¬Parser.Lost setting ⟨true, ⟨_, pairs⟩, 0⟩ 1 ∧
      1 ≤ (session.run pairs 0 3 (some skip)).value.furthest) ∧
    (Parser.Makes setting ⟨true, ⟨_, parser⟩, 0⟩ ⟨true, ⟨_, digit⟩, 1⟩ ∧
      Parser.Stage.Yields setting ⟨true, ⟨_, digit⟩, 1⟩ (.matched "7" 3) ∧
      (session.run parser 0 3 (some skip)).value = ⟨none, 0, 2⟩ ∧
      Parser.Lost setting ⟨true, ⟨_, parser⟩, 0⟩ 3) ∧
    (session.parseAll parser (some skip)).value = .error (.unexpectedToken 2 "7") := by
  intro letter digit pairs parser skip session setting
  have hgrammar : session.grammar.IsLibrary := nofun
  have hskip : skip.IsLibrary := trivial
  have hletter : Parser.Stage.Yields setting ⟨true, ⟨_, letter⟩, 0⟩ (.matched "a" 1) :=
    ⟨8, ⟨0, []⟩, by rfl⟩
  refine ⟨?given_up, ?excluded, by rfl⟩
  case given_up =>
    have hmakes : Parser.Makes setting ⟨true, ⟨_, pairs⟩, 0⟩ ⟨true, ⟨_, letter⟩, 0⟩ :=
      .head (.begins (.many _)) (.single (.begins (.seq _ _)))
    have hpairs : pairs.FailsOpenly setting.grammar := ⟨trivial, trivial⟩
    have hopenly : setting.FailsOpenly := {
      bodies := fun _ hrule => nomatch hrule
      skip := by
        rintro _ ⟨⟩
        trivial }
    have hlost : ¬Parser.Lost setting ⟨true, ⟨_, pairs⟩, 0⟩ 1 :=
      Parser.not_lost_of_failsOpenly hopenly hpairs
    have hcovers := (furthest_covers session pairs (some skip) hgrammar ⟨trivial, trivial⟩
      (fun _ => hskip.of_some_eq)).1 0 3 ⟨8, by decide⟩ _ hmakes "a" 1 hletter
    exact ⟨hmakes, hletter, by rfl, hlost, hcovers.resolve_right hlost⟩
  case excluded =>
    have hresult : (session.run parser 0 3 (some skip)).value = ⟨none, 0, 2⟩ := by rfl
    have hdigit : Parser.Stage.Yields setting ⟨true, ⟨_, digit⟩, 1⟩ (.matched "7" 3) :=
      ⟨8, ⟨0, []⟩, by rfl⟩
    have hmakes : Parser.Makes setting ⟨true, ⟨_, parser⟩, 0⟩ ⟨true, ⟨_, digit⟩, 1⟩ :=
      .head (.follows (.seq _ _) hletter) (.single (.begins (.exclude _ _)))
    have hcovers := (furthest_covers session parser (some skip) hgrammar
      ⟨trivial, trivial, trivial⟩ (fun _ => hskip.of_some_eq)).1 0 3 ⟨8, by decide⟩ _ hmakes "7" 3
      hdigit
    rw [hresult] at hcovers
    exact ⟨hmakes, hdigit, hresult, hcovers.resolve_left (by decide)⟩

/-- Without blanks not even the position of the excluded digit shows. The error stands at the letter
that was taken before it. -/
theorem furthest_misses_excluded_digit :
    let digit : Parser String String := .token ⟨1, "digit", some⟩
    let parser := Parser.seq (.token ⟨0, "letter", some⟩) (.exclude digit digit)
    let session : Session String := ⟨Grammar.empty,
      ⟨#[⟨0, "letter", "a", .ofOffsets 0 1⟩, ⟨1, "digit", "7", .ofOffsets 1 2⟩], 2⟩⟩
    let setting := Setting.new session.tokens 2 session.grammar none
    session.grammar.IsLibrary ∧ parser.IsLibrary ∧ parser.Halts setting 0 ∧
      Parser.Makes setting ⟨true, ⟨_, parser⟩, 0⟩ ⟨true, ⟨_, digit⟩, 1⟩ ∧
      Parser.Stage.Yields setting ⟨true, ⟨_, digit⟩, 1⟩ (.matched "7" 2) ∧
      (session.run parser 0 2 none).value = ⟨none, 0, 0⟩ ∧
      (session.parseAll parser none).value = .error (.unexpectedToken 0 "a") := by
  intro digit parser session setting
  have hletter : Parser.Yields setting (.token ⟨0, "letter", some⟩ : Parser String String) 0
      (.matched "a" 1) := ⟨8, ⟨0, []⟩, by rfl⟩
  have hmakes : Parser.Makes setting ⟨true, ⟨_, parser⟩, 0⟩ ⟨true, ⟨_, digit⟩, 1⟩ :=
    .head (.follows (.seq _ _) hletter) (.single (.begins (.exclude _ _)))
  exact ⟨nofun, ⟨trivial, trivial, trivial⟩, ⟨8, by decide⟩, hmakes, ⟨8, ⟨0, []⟩, by rfl⟩, by rfl,
    by rfl⟩

end Session

end TokenGrammar
