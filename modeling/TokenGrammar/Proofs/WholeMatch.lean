import TokenGrammar.Proofs.Parser.Trials

/-!
# Matching all tokens and matching some

A parser can be matched as far as it goes, or against all tokens with what may be skipped behind the
match. Both are separate drivers over the same attempt. They agree: all tokens match if the parser
does and skipping from its end leads to the end of the tokens, and otherwise the error stands where
the first driver has its furthest position, moved on only by what skipping behind the match refuses.
-/

namespace TokenGrammar

namespace SyntaxError

/-- An error that reports the token at a position, or the end of the source behind the last. -/
structure At (error : SyntaxError) (tokens : TokenSequence) (position : Nat) : Prop where
  le_size : position ≤ tokens.size
  token : position < tokens.size → ∃ token, tokens.get? position = some token ∧
    error = .unexpectedToken token.span.start.toNat token.text
  finish : error = .unexpectedEnd tokens.sourceSize ↔ position = tokens.size

theorem At.ofPosition {tokens : TokenSequence} {position : Nat} (hle : position ≤ tokens.size) :
    (SyntaxError.ofPosition tokens position).At tokens position := by
  unfold SyntaxError.ofPosition TokenSequence.offsetOf
  cases htoken : tokens.get? position with
  | some token =>
    obtain ⟨hlt, -⟩ := Array.getElem?_eq_some_iff.1 htoken
    have hne : position ≠ tokens.size := Nat.ne_of_lt hlt
    exact ⟨hle, fun _ => ⟨token, htoken, rfl⟩, by simp [hne]⟩
  | none =>
    have hge : tokens.size ≤ position := Array.getElem?_eq_none_iff.1 htoken
    exact ⟨hle, fun hlt => absurd hge (Nat.not_le.2 hlt), by simp [Nat.le_antisymm hle hge]⟩

end SyntaxError

/-! ### Where skipping stops -/

theorem Attempt.chain_ne_failed (attempt : Nat → Attempt Unit) (rounds cursor : Nat)
    (progress : Progress) : (chain attempt rounds cursor progress).1 ≠ .failed := by
  induction rounds generalizing cursor progress with
  | zero => simp [chain, exhausted]
  | succ rounds ih =>
    rw [chain, resume]
    split
    · split
      · exact ih _ _
      · simp [matched]
    · simp [matched]
    · simp

theorem Parser.skipFrom_ne_failed {ρ : Nat → Type} (fuel : Nat) (setting : Setting ρ) (cursor : Nat)
    (progress : Progress) : (skipFrom fuel setting cursor progress).1 ≠ .failed := by
  cases hskip : setting.skip? with
  | none => simp [skipFrom_of_none hskip, Attempt.matched]
  | some skip =>
    rw [skipFrom_of_some hskip]
    exact Attempt.chain_ne_failed _ fuel cursor progress

namespace Setting

variable {ρ : Nat → Type} {setting : Setting ρ} {cursor rest rest' reach reach' : Nat}

/-- With some fuel, skipping from the cursor comes to an end. -/
def SkippingHalts (setting : Setting ρ) (cursor : Nat) : Prop :=
  ∃ fuel, (Parser.skipFrom fuel setting cursor ⟨0, []⟩).1 ≠ .exhausted

/-- Skipping from the cursor ends at `rest`, whatever it refuses there. -/
def SkippingStops (setting : Setting ρ) (cursor rest : Nat) : Prop :=
  ∃ reach, setting.Lands cursor rest reach

theorem SkippingHalts.lands (hsetting : setting.IsLibrary) (hhalts : setting.SkippingHalts cursor) :
    ∃ rest reach, setting.Lands cursor rest reach := by
  obtain ⟨least, hanswer⟩ := hhalts
  have hgives : ∀ fuel, least ≤ fuel → (Parser.skipFrom fuel setting cursor).Gives
      (Parser.skipFrom least setting cursor ⟨0, []⟩).1
      (Parser.skipFrom least setting cursor ⟨0, []⟩).2.furthest := by
    intro fuel hfuel
    have hmore := Parser.skipFrom_eq_of_le hsetting hfuel hanswer
    rw [← hmore] at hanswer ⊢
    have hraised : ∀ floor, (Correspondence.raised floor).Related cursor cursor
        (Parser.skipFrom fuel setting cursor) (Parser.skipFrom fuel setting cursor) := fun floor =>
      Correspondence.skipFrom_of_take hsetting rfl rfl (Parser.take_raised floor) 0 fuel rfl
    exact Correspondence.gives_of_raised hraised hanswer
  cases houtcome : (Parser.skipFrom least setting cursor ⟨0, []⟩).1 with
  | matched value rest =>
    rw [houtcome] at hgives
    exact ⟨rest, _, least, hgives⟩
  | failed => exact absurd houtcome (Parser.skipFrom_ne_failed least setting cursor _)
  | exhausted => exact absurd houtcome hanswer

theorem Lands.unique (hlands : setting.Lands cursor rest reach)
    (hlands' : setting.Lands cursor rest' reach') : rest = rest' ∧ reach = reach' := by
  obtain ⟨least, hgives⟩ := hlands
  obtain ⟨least', hgives'⟩ := hlands'
  obtain ⟨houtcome, hreach⟩ := (hgives _ (Nat.le_max_left least least')).unique
    (hgives' _ (Nat.le_max_right least least'))
  rw [Outcome.matched.injEq] at houtcome
  exact ⟨houtcome.2, hreach⟩

theorem Lands.skippingStops_iff (hlands : setting.Lands cursor rest reach) :
    setting.SkippingStops cursor rest' ↔ rest = rest' := by
  constructor
  · rintro ⟨reach', hlands'⟩
    exact (hlands.unique hlands').1
  · rintro rfl
    exact ⟨reach, hlands⟩

theorem Lands.within (hlands : setting.Lands cursor rest reach) (hsetting : setting.IsLibrary) :
    cursor ≤ rest ∧ rest ≤ max cursor setting.finish ∧ reach ≤ max cursor setting.finish := by
  obtain ⟨fuel, hgives⟩ := hlands
  have hgives := hgives fuel (Nat.le_refl fuel)
  have hskips : setting.Skips cursor rest :=
    Parser.skipFrom_ensures_skips fuel setting cursor ⟨0, []⟩ () rest (hgives ⟨0, []⟩).1
  obtain ⟨hle, hlimit⟩ := hskips.within hsetting
  have hcursor : (Correspondence.below (max cursor setting.finish)).cursor cursor cursor :=
    ⟨rfl, Nat.le_max_left cursor setting.finish⟩
  have hbelow := Correspondence.skipFrom_of_take hsetting rfl rfl
    (Parser.take_below (Nat.le_max_right cursor setting.finish)) 0 fuel hcursor
  exact ⟨hle, hlimit, Correspondence.reach_le_of_below hbelow hgives (by simp)⟩

/-- Where nothing or single tokens are skipped, nothing beyond the stop is refused. -/
theorem Lands.max_reach (hlands : setting.Lands cursor rest reach)
    (hsingle : setting.skip? = none ∨
      ∃ skip passed, setting.skip? = some skip ∧ skip.TakesOne passed) :
    max cursor reach = rest := by
  rcases hsingle with hnone | ⟨skip, passed, hskip, htakes⟩
  · obtain ⟨rfl, rfl⟩ := hlands.unique (lands_of_none hnone cursor)
    exact Nat.max_zero rest
  · obtain ⟨rfl, rfl⟩ := hlands.unique (Parser.lands_settle (htakes.passesOver hskip) cursor)
    exact Nat.max_eq_right (le_settle passed setting.visible cursor)

end Setting

namespace Session

variable {ρ : Nat → Type} {α : Type}

/-- **Matching all tokens agrees with matching some.** Let a library parser and the skipping behind
its match halt. All tokens match with a value if and only if the parser matches with it and skipping
from there stops at the end of the tokens. Otherwise there is an error at some position: the
furthest one if the parser does not match, and if it does, one that is neither before the furthest
nor before where skipping stops, and the later of the two if nothing or single tokens are skipped.
The error names the token there, or the end of the source if there is none. -/
theorem parseAll_agrees_with_run (session : Session ρ) (parser : Parser ρ α)
    (skip? : Option (Parser ρ Unit)) (hgrammar : session.grammar.IsLibrary)
    (hparser : parser.IsLibrary) (hskip : ∀ skip, skip? = some skip → skip.IsLibrary)
    (hhalts : parser.Halts
      (Setting.new session.tokens session.tokens.size session.grammar skip?) 0)
    (hskipping : ∀ value,
      (session.run parser 0 session.tokens.size skip?).value.value? = some value →
        (Setting.new session.tokens session.tokens.size session.grammar skip?).SkippingHalts
          (session.run parser 0 session.tokens.size skip?).value.cursor) :
    let setting := Setting.new session.tokens session.tokens.size session.grammar skip?
    let result := (session.run parser 0 session.tokens.size skip?).value
    let whole := (session.parseAll parser skip?).value
    (∀ value, whole = .ok value ↔
      result.value? = some value ∧ setting.SkippingStops result.cursor session.tokens.size) ∧
    ∀ error, whole = .error error → ∃ position, error.At session.tokens position ∧
      (result.value? = none → position = result.furthest) ∧
      ∀ value, result.value? = some value → ∃ rest, setting.SkippingStops result.cursor rest ∧
        result.furthest ≤ position ∧ rest ≤ position ∧
        (skip? = none ∨ (∃ skip passed, skip? = some skip ∧ skip.TakesOne passed) →
          position = max result.furthest rest) := by
  intro setting result whole
  have hsetting : setting.IsLibrary := ⟨hgrammar, hskip⟩
  have hfinish : setting.finish = session.tokens.size := Nat.min_self _
  obtain ⟨outcome, reach, hne, hanswers⟩ := hhalts.answers hsetting hparser
  have hreach := hanswers.reach_le hne hsetting hparser
  have hresult : result = Match.ofOutcome 0 (outcome, ⟨max 0 reach, []⟩) :=
    run_value_of_answers hgrammar hparser hskip hanswers hne
  rw [hfinish, Nat.zero_max] at hreach
  cases outcome with
  | exhausted => exact absurd rfl hne
  | failed =>
    have hwhole : whole = .error (.ofPosition session.tokens reach) :=
      parseAll_value_of_answers_failed hgrammar hparser hskip hanswers
    rw [hwhole, hresult]
    refine ⟨by simp [Match.ofOutcome], ?_⟩
    rintro _ ⟨⟩
    exact ⟨reach, .ofPosition hreach, by simp [Match.ofOutcome], by simp [Match.ofOutcome]⟩
  | matched value next =>
    obtain ⟨hnext, hvalue, hfurthest⟩ : result.cursor = next ∧ result.value? = some value ∧
        result.furthest = max next reach := by simp [hresult, Match.ofOutcome]
    have hlimit := (hanswers.yields.within hsetting hparser).2
    rw [hfinish, Nat.zero_max] at hlimit
    obtain ⟨rest, reach', hlands⟩ := (hskipping value hvalue).lands hsetting
    have hlands : setting.Lands next rest reach' := hnext ▸ hlands
    obtain ⟨hle, hrest, hreach'⟩ := hlands.within hsetting
    have hwhole : whole = if rest = session.tokens.size then .ok value
        else .error (.ofPosition session.tokens (max rest (max reach reach'))) :=
      parseAll_value_of_lands hgrammar hparser hskip hanswers hlands
    rw [hwhole, hvalue, hnext, hfurthest]
    constructor
    · intro found
      rw [hlands.skippingStops_iff]
      by_cases hend : rest = session.tokens.size
      · simp [hend]
      · simp [hend]
    · intro error herror
      split at herror
      · cases herror
      · cases herror
        have hposition : max rest (max reach reach') ≤ session.tokens.size := by omega
        refine ⟨_, .ofPosition hposition, by simp, fun _ _ => ⟨rest, ⟨reach', hlands⟩, ?_⟩⟩
        refine ⟨by omega, by omega, fun hsingle => ?_⟩
        have hmax := hlands.max_reach hsingle
        omega

/-- A letter that two more may follow, where only one does. The match ends behind the first letter
and skipping behind the blank, but the error stays where the third letter is missing. -/
theorem parseAll_letter_before_digit :
    let letter : Parser String String := .rule ⟨1, 0, "letter", 0⟩
    let parser := Parser.seq letter (.optional (.seq letter letter))
    let skip : Parser String Unit := .token ⟨1, "blank", fun _ => some ()⟩
    let session : Session String := ⟨⟨1, [⟨"letter", 0, .token ⟨0, "letter", some⟩⟩]⟩,
      ⟨#[⟨0, "letter", "a", .ofOffsets 0 1⟩, ⟨1, "blank", " ", .ofOffsets 1 2⟩,
        ⟨0, "letter", "b", .ofOffsets 2 3⟩, ⟨2, "digit", "7", .ofOffsets 3 4⟩], 4⟩⟩
    let setting := Setting.new session.tokens 4 session.grammar (some skip)
    parser.Halts setting 0 ∧ (session.run parser 0 4 (some skip)).value = ⟨some ("a", none), 1, 3⟩ ∧
      setting.SkippingHalts 1 ∧ ¬ setting.SkippingStops 1 4 ∧ ∃ rest, setting.SkippingStops 1 rest ∧
        (SyntaxError.unexpectedToken 3 "7").At session.tokens (max 3 rest) := by
  intro letter parser skip session setting
  have hhalts : parser.Halts setting 0 := ⟨8, by decide⟩
  have hresult : (session.run parser 0 4 (some skip)).value = ⟨some ("a", none), 1, 3⟩ := by rfl
  have hwhole : (session.parseAll parser (some skip)).value =
      .error (.unexpectedToken 3 "7") := by rfl
  have hskipping : setting.SkippingHalts 1 := ⟨8, by decide⟩
  have hgrammar : session.grammar.IsLibrary := by
    rintro rule (_ | ⟨_, ⟨⟩⟩)
    trivial
  have hparser : parser.IsLibrary := ⟨trivial, trivial, trivial⟩
  have hskip : skip.IsLibrary := trivial
  obtain ⟨hok, herror⟩ := parseAll_agrees_with_run session parser (some skip) hgrammar hparser
    (fun _ => hskip.of_some_eq) hhalts (fun _ _ => hskipping)
  obtain ⟨position, hat, -, hmatched⟩ := herror _ hwhole
  obtain ⟨rest, hstops, -, -, hposition⟩ := hmatched _ rfl
  obtain rfl : position = max 3 rest := hposition (.inr ⟨skip, _, rfl, .primitive _⟩)
  refine ⟨hhalts, hresult, hskipping, fun hend => ?_, rest, hstops, hat⟩
  exact nomatch (hok _).2 ⟨rfl, hend⟩

end Session

end TokenGrammar
