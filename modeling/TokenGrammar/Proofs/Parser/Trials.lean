import Mathlib.Logic.Relation
import TokenGrammar.Parser.Cursor
import TokenGrammar.Proofs.Parser.Furthest

/-!
# Attempts within attempts

An attempt at a parser makes further attempts: at its components, at the body of a rule, and at the
skip parser before a token. `Tries` says which ones it makes itself and where, and its closure which
ones a whole run makes, those included that are given up in the end. All of them move within the
bounds of the run: none goes back, none goes past the end bound, and neither does what they refuse.
-/

namespace TokenGrammar

/-! ### Properties of matches -/

namespace Attempt

variable {α β : Type}

/-- All matches of the attempt have the property. -/
def Ensures (attempt : Attempt α) (post : α → Nat → Prop) : Prop :=
  ∀ progress value next, (attempt progress).1 = .matched value next → post value next

namespace Ensures

variable {attempt alternative : Attempt α} {onMatch : α → Nat → Attempt β} {onFailure : Attempt β}
  {post post' : α → Nat → Prop} {final : β → Nat → Prop} {value : α} {next : Nat}

theorem matched (h : post value next) : (Attempt.matched value next).Ensures post := by
  rintro progress _ _ ⟨⟩
  exact h

theorem failed : (Attempt.failed : Attempt α).Ensures post := by
  rintro progress _ _ ⟨⟩

theorem exhausted : (Attempt.exhausted : Attempt α).Ensures post := by
  rintro progress _ _ ⟨⟩

theorem refused (position : Nat) : (Attempt.refused position : Attempt α).Ensures post := by
  rintro progress _ _ ⟨⟩

theorem after (event : Event) (h : attempt.Ensures post) : (attempt.after event).Ensures post :=
  fun progress => h (progress.record event)

theorem mono (h : attempt.Ensures post) (himp : ∀ value next, post value next → post' value next) :
    attempt.Ensures post' :=
  fun progress value next hmatched => himp value next (h progress value next hmatched)

theorem resume (h : attempt.Ensures post)
    (hmatch : ∀ value next, post value next → (onMatch value next).Ensures final)
    (hfail : onFailure.Ensures final) : (attempt.resume onMatch onFailure).Ensures final := by
  intro progress value next hmatched
  unfold Attempt.resume at hmatched
  split at hmatched
  · next middle after heq =>
    have hmiddle := h progress _ middle (by rw [heq])
    exact hmatch _ middle hmiddle after value next hmatched
  · next after heq => exact hfail after value next hmatched
  · cases hmatched

theorem andThen (h : attempt.Ensures post)
    (hmatch : ∀ value next, post value next → (onMatch value next).Ensures final) :
    (attempt.andThen onMatch).Ensures final :=
  h.resume hmatch failed

theorem orElse (h : attempt.Ensures post) (h' : alternative.Ensures post) :
    (attempt.orElse alternative).Ensures post :=
  h.resume (fun _ _ hpost => matched hpost) h'

theorem map (f : α → β) (h : attempt.Ensures post)
    (himp : ∀ value next, post value next → final (f value) next) :
    (attempt.map f).Ensures final :=
  h.andThen fun value next hpost => matched (himp value next hpost)

end Ensures

end Attempt

/-! ### Which attempts are made -/

namespace Parser

variable {ρ : Nat → Type}

/-- The parser can end with this outcome at the cursor. -/
def Yields {α : Type} (setting : Setting ρ) (parser : Parser ρ α) (cursor : Nat)
    (outcome : Outcome α) : Prop :=
  ∃ fuel progress, (parser.run fuel setting cursor progress).1 = outcome

theorem run_ensures_yields {α : Type} (fuel : Nat) (setting : Setting ρ) (parser : Parser ρ α)
    (cursor : Nat) :
    (parser.run fuel setting cursor).Ensures fun value next =>
      parser.Yields setting cursor (.matched value next) :=
  fun progress _ _ hmatched => ⟨fuel, progress, hmatched⟩

end Parser

namespace Setting

variable {ρ : Nat → Type}

/-- One match of the skip parser that advances. -/
def SkipStep (setting : Setting ρ) (cursor next : Nat) : Prop :=
  cursor < next ∧ ∃ skip, setting.skip? = some skip ∧
    skip.Yields setting.withoutSkip cursor (.matched () next)

/-- Skipping comes past the second cursor on its way from the first. -/
def Skips (setting : Setting ρ) : Nat → Nat → Prop := Relation.ReflTransGen setting.SkipStep

end Setting

namespace Parser

variable {ρ : Nat → Type}

/-- The parser tried first, at the same cursor. -/
inductive Begins (grammar : Grammar (RuleBody ρ)) :
    {α β : Type} → Parser ρ α → Parser ρ β → Prop where
  | seq {α β : Type} (first : Parser ρ α) (second : Parser ρ β) :
      Begins grammar (seq first second) first
  | thenIgnore {α β : Type} (first : Parser ρ α) (second : Parser ρ β) :
      Begins grammar (thenIgnore first second) first
  | ignoreThen {α β : Type} (first : Parser ρ α) (second : Parser ρ β) :
      Begins grammar (ignoreThen first second) first
  | alt {α : Type} (first second : Parser ρ α) : Begins grammar (alt first second) first
  | either {α β : Type} (first : Parser ρ α) (second : Parser ρ β) :
      Begins grammar (either first second) first
  | many {α : Type} (item : Parser ρ α) : Begins grammar (many item) item
  | many1 {α : Type} (item : Parser ρ α) : Begins grammar (many1 item) (many item)
  | exclude {α β : Type} (inner : Parser ρ α) (excluded : Parser ρ β) :
      Begins grammar (exclude inner excluded) inner
  | discard {α : Type} (inner : Parser ρ α) : Begins grammar (discard inner) inner
  | optional {α : Type} (inner : Parser ρ α) : Begins grammar (optional inner) inner
  | map {α β : Type} (f : α → β) (inner : Parser ρ α) : Begins grammar (map f inner) inner
  | rule {handle : Rule} {body : Parser ρ (ρ handle.output)}
      (hbody : grammar.body? handle = some body) :
      Begins grammar (rule handle) body

/-- The second component, tried where the first one ended. -/
inductive Follows : {α β γ : Type} → Parser ρ α → Parser ρ β → Parser ρ γ → Prop where
  | seq {α β : Type} (first : Parser ρ α) (second : Parser ρ β) :
      Follows (seq first second) first second
  | thenIgnore {α β : Type} (first : Parser ρ α) (second : Parser ρ β) :
      Follows (thenIgnore first second) first second
  | ignoreThen {α β : Type} (first : Parser ρ α) (second : Parser ρ β) :
      Follows (ignoreThen first second) first second

/-- The second component, tried at the same cursor because the first one failed. -/
inductive Chooses : {α β γ : Type} → Parser ρ α → Parser ρ β → Parser ρ γ → Prop where
  | alt {α : Type} (first second : Parser ρ α) : Chooses (alt first second) first second
  | either {α β : Type} (first : Parser ρ α) (second : Parser ρ β) :
      Chooses (either first second) first second

/-- The attempts that an attempt at a library parser makes itself. -/
inductive Tries (setting : Setting ρ) : Stage ρ → Stage ρ → Prop where
  | skips {α : Type} {wanted : Primitive α} {skip : Parser ρ Unit} {cursor reached : Nat}
      (hskip : setting.skip? = some skip) (hreached : setting.Skips cursor reached) :
      Tries setting ⟨true, ⟨α, primitive wanted⟩, cursor⟩ ⟨false, ⟨Unit, skip⟩, reached⟩
  | begins {skipping : Bool} {α β : Type} {parser : Parser ρ α} {first : Parser ρ β} {cursor : Nat}
      (hbegins : Begins setting.grammar parser first) :
      Tries setting ⟨skipping, ⟨α, parser⟩, cursor⟩ ⟨skipping, ⟨β, first⟩, cursor⟩
  | follows {skipping : Bool} {α β γ : Type} {parser : Parser ρ α} {first : Parser ρ β}
      {second : Parser ρ γ} {cursor middle : Nat} {value : β}
      (hfollows : Follows parser first second)
      (hfirst : first.Yields (withSkipping setting skipping) cursor (.matched value middle)) :
      Tries setting ⟨skipping, ⟨α, parser⟩, cursor⟩ ⟨skipping, ⟨γ, second⟩, middle⟩
  | repeats {skipping : Bool} {α : Type} {item : Parser ρ α} {cursor next : Nat} {value : α}
      (hitem : item.Yields (withSkipping setting skipping) cursor (.matched value next))
      (hadvance : cursor < next) :
      Tries setting ⟨skipping, ⟨List α, many item⟩, cursor⟩ ⟨skipping, ⟨List α, many item⟩, next⟩
  | chooses {skipping : Bool} {α β γ : Type} {parser : Parser ρ α} {first : Parser ρ β}
      {second : Parser ρ γ} {cursor : Nat} (hchooses : Chooses parser first second)
      (hfirst : first.Yields (withSkipping setting skipping) cursor .failed) :
      Tries setting ⟨skipping, ⟨α, parser⟩, cursor⟩ ⟨skipping, ⟨γ, second⟩, cursor⟩
  | excludes {skipping : Bool} {α β : Type} {inner : Parser ρ α} {excluded : Parser ρ β}
      {cursor next : Nat} {value : α}
      (hinner : inner.Yields (withSkipping setting skipping) cursor (.matched value next)) :
      Tries setting ⟨skipping, ⟨α, exclude inner excluded⟩, cursor⟩
        ⟨skipping, ⟨β, excluded⟩, cursor⟩

/-- The attempts that are made in the course of an attempt, itself included. -/
def Makes (setting : Setting ρ) : Stage ρ → Stage ρ → Prop :=
  Relation.ReflTransGen (Tries setting)

def Stage.Yields (setting : Setting ρ) (stage : Stage ρ) (outcome : Outcome stage.part.1) : Prop :=
  stage.part.2.Yields (withSkipping setting stage.skipping) stage.cursor outcome

theorem withSkipping_isLibrary {setting : Setting ρ} (hsetting : setting.IsLibrary)
    (skipping : Bool) : (withSkipping setting skipping).IsLibrary := by
  cases skipping with
  | true => exact hsetting
  | false => exact hsetting.withoutSkip

@[simp]
theorem withSkipping_finish (setting : Setting ρ) (skipping : Bool) :
    (withSkipping setting skipping).finish = setting.finish := by
  cases skipping <;> rfl

@[simp]
theorem withSkipping_grammar (setting : Setting ρ) (skipping : Bool) :
    (withSkipping setting skipping).grammar = setting.grammar := by
  cases skipping <;> rfl

theorem Begins.isLibrary {grammar : Grammar (RuleBody ρ)} (hgrammar : grammar.IsLibrary)
    {α β : Type} {parser : Parser ρ α} {first : Parser ρ β} (hbegins : Begins grammar parser first)
    (hparser : parser.IsLibrary) : first.IsLibrary := by
  cases hbegins with
  | seq | thenIgnore | ignoreThen | alt | either | exclude => exact hparser.1
  | many | many1 | discard | optional | map => exact hparser
  | rule hbody => exact hgrammar.body hbody

theorem Follows.isLibrary {α β γ : Type} {parser : Parser ρ α} {first : Parser ρ β}
    {second : Parser ρ γ} (hfollows : Follows parser first second) (hparser : parser.IsLibrary) :
    first.IsLibrary ∧ second.IsLibrary := by
  cases hfollows <;> exact hparser

theorem Chooses.isLibrary {α β γ : Type} {parser : Parser ρ α} {first : Parser ρ β}
    {second : Parser ρ γ} (hchooses : Chooses parser first second) (hparser : parser.IsLibrary) :
    first.IsLibrary ∧ second.IsLibrary := by
  cases hchooses <;> exact hparser

theorem Tries.isLibrary {setting : Setting ρ} (hsetting : setting.IsLibrary) {stage next : Stage ρ}
    (htries : Tries setting stage next) (hstage : stage.part.2.IsLibrary) :
    next.part.2.IsLibrary := by
  cases htries with
  | skips hskip => exact hsetting.skip _ hskip
  | begins hbegins => exact hbegins.isLibrary hsetting.grammar hstage
  | follows hfollows => exact (hfollows.isLibrary hstage).2
  | repeats => exact hstage
  | chooses hchooses => exact (hchooses.isLibrary hstage).2
  | excludes => exact hstage.2

/-! ### Bounds -/

theorem Yields.within {setting : Setting ρ} {α : Type} {parser : Parser ρ α} {cursor next : Nat}
    {value : α}
    (hyields : parser.Yields setting cursor (.matched value next)) (hsetting : setting.IsLibrary)
    (hparser : parser.IsLibrary) : cursor ≤ next ∧ next ≤ max cursor setting.finish := by
  obtain ⟨fuel, progress, hmatched⟩ := hyields
  have hagree := run_add_related hsetting hparser (Nat.le_max_right cursor setting.finish) fuel 0
    (Nat.le_refl cursor) (Nat.le_max_left cursor setting.finish) progress progress rfl
  generalize parser.run fuel setting cursor progress = result at hmatched hagree
  cases hagree with
  | exhausted => cases hmatched
  | failed => cases hmatched
  | matched found hcursor =>
    obtain ⟨-, hstart, hlimit⟩ := hcursor
    cases hmatched
    exact ⟨hstart, hlimit⟩

end Parser

namespace Setting

variable {ρ : Nat → Type} {setting : Setting ρ} {cursor reached : Nat}

theorem Skips.within (hsetting : setting.IsLibrary) (hskips : setting.Skips cursor reached) :
    cursor ≤ reached ∧ reached ≤ max cursor setting.finish := by
  induction hskips with
  | refl => omega
  | tail _ hstep ih =>
    obtain ⟨hlt, skip, hskip, hyields⟩ := hstep
    have hlimit := (hyields.within hsetting.withoutSkip (hsetting.skip skip hskip)).2
    change _ ≤ max _ setting.finish at hlimit
    omega

end Setting

namespace Parser

variable {ρ : Nat → Type} {setting : Setting ρ}

theorem chain_ensures_skips {skip : Parser ρ Unit} (hskip : setting.skip? = some skip)
    (fuel rounds cursor : Nat) :
    (Attempt.chain (skip.run fuel setting.withoutSkip) rounds cursor).Ensures fun _ reached =>
      setting.Skips cursor reached := by
  induction rounds generalizing cursor with
  | zero => exact .exhausted
  | succ rounds ih =>
    rw [Attempt.chain]
    refine (run_ensures_yields fuel setting.withoutSkip skip cursor).resume ?_ ?_
    · intro _ next hyields
      split
      · next hlt =>
        have hstep : setting.SkipStep cursor next := ⟨hlt, skip, hskip, hyields⟩
        exact (ih next).mono fun _ _ hskips => hskips.head hstep
      · exact .matched .refl
    · exact .matched .refl

theorem skipFrom_ensures_skips (fuel : Nat) (setting : Setting ρ) (cursor : Nat) :
    (skipFrom fuel setting cursor).Ensures fun _ reached => setting.Skips cursor reached := by
  cases hskip : setting.skip? with
  | none =>
    rw [skipFrom_of_none hskip]
    exact .matched .refl
  | some skip =>
    rw [skipFrom_of_some hskip]
    exact chain_ensures_skips hskip fuel fuel cursor

theorem take_ensures {α : Type} (setting : Setting ρ) (wanted : Primitive α) (cursor : Nat) :
    (take setting wanted cursor).Ensures fun value next =>
      next = cursor + 1 ∧ ∃ token, setting.tokenAt cursor = some token ∧
        wanted.decode token = some value := by
  unfold take
  split
  · exact .refused cursor
  · next token htoken =>
    split
    · exact .refused cursor
    · next value hdecode => exact .after _ (.matched ⟨rfl, token, htoken, hdecode⟩)

/-- A primitive takes the token where skipping ends. -/
theorem Yields.primitive {α : Type} {wanted : Primitive α} {cursor next : Nat} {value : α}
    (hyields : (primitive wanted).Yields setting cursor (.matched value next)) :
    ∃ position, setting.Skips cursor position ∧ next = position + 1 ∧
      ∃ token, setting.tokenAt position = some token ∧ wanted.decode token = some value := by
  obtain ⟨fuel, progress, hmatched⟩ := hyields
  cases fuel with
  | zero => cases hmatched
  | succ fuel =>
    rw [run_primitive] at hmatched
    have htakes : Attempt.Ensures _ fun value next =>
        ∃ position, setting.Skips cursor position ∧ next = position + 1 ∧
          ∃ token, setting.tokenAt position = some token ∧ wanted.decode token = some value :=
      (skipFrom_ensures_skips fuel setting cursor).andThen fun _ position hskips =>
        (take_ensures setting wanted position).mono fun _ _ htaken => ⟨position, hskips, htaken⟩
    exact htakes progress value next hmatched

theorem Yields.exists_taken {α : Type} {wanted : Primitive α} {cursor next : Nat} {value : α}
    (hyields : (Parser.primitive wanted).Yields setting cursor (.matched value next)) :
    ∃ position, position < setting.finish ∧ next = position + 1 := by
  obtain ⟨position, -, hnext, token, htoken, -⟩ := hyields.primitive
  exact ⟨position, Setting.lt_finish_of_tokenAt htoken, hnext⟩

section Bounds

variable (hsetting : setting.IsLibrary)

include hsetting

theorem Tries.within {stage next : Stage ρ} (htries : Tries setting stage next)
    (hstage : stage.part.2.IsLibrary) :
    stage.cursor ≤ next.cursor ∧ next.cursor ≤ max stage.cursor setting.finish := by
  cases htries with
  | skips _ hreached => exact hreached.within hsetting
  | @follows skipping _ _ _ _ _ _ _ _ _ hfollows hfirst =>
    have hwithin := hfirst.within (withSkipping_isLibrary hsetting skipping)
      (hfollows.isLibrary hstage).1
    rwa [withSkipping_finish] at hwithin
  | @repeats skipping _ _ _ _ _ hitem =>
    have hwithin := hitem.within (withSkipping_isLibrary hsetting skipping) hstage
    rwa [withSkipping_finish] at hwithin
  | begins => exact ⟨Nat.le_refl _, Nat.le_max_left _ _⟩
  | chooses => exact ⟨Nat.le_refl _, Nat.le_max_left _ _⟩
  | excludes => exact ⟨Nat.le_refl _, Nat.le_max_left _ _⟩

/-- **All attempts of a run** are at library parsers, and start within its bounds. -/
theorem Makes.within {stage next : Stage ρ} (hmakes : Makes setting stage next)
    (hstage : stage.part.2.IsLibrary) :
    next.part.2.IsLibrary ∧ stage.cursor ≤ next.cursor ∧
      next.cursor ≤ max stage.cursor setting.finish := by
  induction hmakes with
  | refl => exact ⟨hstage, Nat.le_refl _, Nat.le_max_left _ _⟩
  | tail _ htries ih =>
    obtain ⟨hlibrary, hstart, hlimit⟩ := ih
    have hwithin := htries.within hsetting hlibrary
    exact ⟨htries.isLibrary hsetting hlibrary, by omega, by omega⟩

theorem Stage.Yields.within {stage : Stage ρ} (hstage : stage.part.2.IsLibrary)
    {value : stage.part.1} {next : Nat} (hyields : stage.Yields setting (.matched value next)) :
    stage.cursor ≤ next ∧ next ≤ max stage.cursor setting.finish := by
  have hwithin := Parser.Yields.within hyields (withSkipping_isLibrary hsetting stage.skipping)
    hstage
  rwa [withSkipping_finish] at hwithin

end Bounds

end Parser

namespace Correspondence

/-- One run beside itself, with all cursors and refusals up to a limit. -/
def below (limit : Nat) : Correspondence where
  cursor left right := left = right ∧ left ≤ limit
  progress p _ := p.furthest ≤ limit
  enteredRule := fun _ _ hprogress => hprogress
  leftRule := fun _ _ _ hprogress => hprogress
  unknownRule := fun _ hprogress => hprogress

theorem reach_le_of_below {α : Type} {attempt : Attempt α} {outcome : Outcome α}
    {cursor limit reach : Nat} (hbelow : (below limit).Related cursor cursor attempt attempt)
    (hgives : attempt.Gives outcome reach) (hne : outcome ≠ .exhausted) : reach ≤ limit := by
  obtain ⟨progress, hattempt, hfurthest⟩ := hgives.exists_progress ⟨0, []⟩
  have hagree := hbelow ⟨0, []⟩ ⟨0, []⟩ (Nat.zero_le limit)
  rw [hattempt] at hagree
  have hle : progress.furthest ≤ limit := by
    cases hagree with
    | exhausted => exact absurd rfl hne
    | failed hprogress => exact hprogress
    | matched value hcursor hmove hprogress => exact hprogress
  rw [hfurthest] at hle
  exact (Nat.le_max_right _ _).trans hle

end Correspondence

namespace Parser

variable {ρ : Nat → Type} {α : Type} {setting : Setting ρ} {parser : Parser ρ α}
  {cursor limit : Nat}

theorem take_below (hfinish : setting.finish ≤ limit) (wanted : Primitive α) (left right : Nat)
    (hcursor : (Correspondence.below limit).cursor left right) :
    (Correspondence.below limit).Related left right (take setting wanted left)
      (take setting wanted right) := by
  obtain ⟨rfl, hleft⟩ := hcursor
  apply take_related
  · intro hlt
    exact ⟨rfl, by omega⟩
  · intro p q hprogress
    exact Nat.max_le.2 ⟨hprogress, hleft⟩
  · intro event p q hprogress
    exact hprogress

theorem Answers.reach_le {outcome : Outcome α} {reach : Nat}
    (hanswers : parser.Answers setting cursor outcome reach) (hne : outcome ≠ .exhausted)
    (hsetting : setting.IsLibrary) (hparser : parser.IsLibrary) :
    reach ≤ max cursor setting.finish := by
  obtain ⟨fuel, hgives⟩ := hanswers
  exact Correspondence.reach_le_of_below
    (Correspondence.run_of_take hsetting rfl rfl (take_below (Nat.le_max_right _ _)) 0 fuel hparser
      ⟨rfl, Nat.le_max_left _ _⟩) (hgives fuel (Nat.le_refl fuel)) hne

theorem Answers.yields {outcome : Outcome α} {reach : Nat}
    (hanswers : parser.Answers setting cursor outcome reach) :
    parser.Yields setting cursor outcome := by
  obtain ⟨fuel, hgives⟩ := hanswers
  exact ⟨fuel, ⟨0, []⟩, (hgives fuel (Nat.le_refl fuel) ⟨0, []⟩).1⟩

end Parser

theorem Match.cursor_ofOutcome_of_none {α : Type} {start : Nat} {result : Outcome α × Progress}
    (hnone : (ofOutcome start result).value? = none) : (ofOutcome start result).cursor = start := by
  obtain ⟨outcome, progress⟩ := result
  cases outcome with
  | matched value next => cases hnone
  | failed => rfl
  | exhausted => rfl

namespace Session

variable {ρ : Nat → Type} {α : Type} {session : Session ρ} {parser : Parser ρ α}
  {skip? : Option (Parser ρ Unit)}
  {start finish : Nat}

section Library

variable (hgrammar : session.grammar.IsLibrary) (hparser : parser.IsLibrary)
  (hskip : ∀ skip, skip? = some skip → skip.IsLibrary)

include hgrammar hparser hskip

theorem run_value_of_answers {outcome : Outcome α} {reach : Nat}
    (hanswers : parser.Answers (Setting.new session.tokens finish session.grammar skip?) start
      outcome reach)
    (hne : outcome ≠ .exhausted) :
    (session.run parser start finish skip?).value =
      Match.ofOutcome start (outcome, ⟨max start reach, []⟩) := by
  have hgives := run_allowance_gives hgrammar hparser hskip hanswers hne
  obtain ⟨progress, hrun, hfurthest⟩ := hgives.exists_progress ⟨start, []⟩
  simp only [run, hrun]
  cases outcome with
  | matched value next => simp [Match.ofOutcome, hfurthest]
  | failed => simp [Match.ofOutcome, hfurthest]
  | exhausted => exact absurd rfl hne

theorem run_value_within
    (hhalts : parser.Halts (Setting.new session.tokens finish session.grammar skip?) start) :
    start ≤ (session.run parser start finish skip?).value.cursor ∧
      (session.run parser start finish skip?).value.cursor ≤
        (session.run parser start finish skip?).value.furthest ∧
      (session.run parser start finish skip?).value.furthest ≤
        max start (min finish session.tokens.size) := by
  have hsetting : (Setting.new session.tokens finish session.grammar skip?).IsLibrary :=
    ⟨hgrammar, hskip⟩
  obtain ⟨outcome, reach, hne, hanswers⟩ := hhalts.answers hsetting hparser
  have hreach : reach ≤ max start (min finish session.tokens.size) :=
    hanswers.reach_le hne hsetting hparser
  rw [run_value_of_answers hgrammar hparser hskip hanswers hne]
  cases outcome with
  | matched value next =>
    have hwithin : start ≤ next ∧ next ≤ max start (min finish session.tokens.size) :=
      hanswers.yields.within hsetting hparser
    simp only [Match.ofOutcome]
    omega
  | failed =>
    simp only [Match.ofOutcome]
    omega
  | exhausted => exact absurd rfl hne

end Library

/-- **The cursor contract.** A library parser that matches, in the course of the run or otherwise,
ends at or after its start and not past the end bound, unless it starts there. A token is only taken
before the end bound, so the cursor behind it is a word whenever the number of tokens is one. All
attempts that the run makes are at library parsers and start within its bounds. A run without a
match ends where it started, and otherwise not before; what it refuses lies between its end and the
end bound. -/
theorem run_cursor_contract (session : Session ρ) (parser : Parser ρ α)
    (skip? : Option (Parser ρ Unit)) (start finish : Nat) (hgrammar : session.grammar.IsLibrary)
    (hparser : parser.IsLibrary) (hskip : ∀ skip, skip? = some skip → skip.IsLibrary)
    (hhalts : parser.Halts (Setting.new session.tokens finish session.grammar skip?) start) :
    let setting := Setting.new session.tokens finish session.grammar skip?
    let limit := min finish session.tokens.size
    let result := (session.run parser start finish skip?).value
    (∀ stage : Parser.Stage ρ, stage.part.2.IsLibrary → ∀ value next,
      stage.Yields setting (.matched value next) →
        stage.cursor ≤ next ∧ next ≤ max stage.cursor limit ∧
        ∀ (γ : Type) (wanted : Primitive γ), stage.part = ⟨γ, .primitive wanted⟩ →
          ∃ position, position < limit ∧ next = position + 1 ∧
            (session.tokens.size < 18446744073709551616 →
              Cursor.next ⟨.ofNat position⟩ = .ok ⟨.ofNat next⟩)) ∧
    (∀ stage, Parser.Makes setting ⟨true, ⟨α, parser⟩, start⟩ stage →
      stage.part.2.IsLibrary ∧ start ≤ stage.cursor ∧ stage.cursor ≤ max start limit) ∧
    (result.value? = none → result.cursor = start) ∧
      start ≤ result.cursor ∧ result.cursor ≤ result.furthest ∧
        result.furthest ≤ max start limit := by
  intro setting limit result
  have hsetting : setting.IsLibrary := ⟨hgrammar, hskip⟩
  refine ⟨?_, ?_, Match.cursor_ofOutcome_of_none, run_value_within hgrammar hparser hskip hhalts⟩
  · intro stage hlibrary value next hyields
    obtain ⟨hstart, hlimit⟩ := Parser.Stage.Yields.within hsetting hlibrary hyields
    refine ⟨hstart, hlimit, fun γ wanted hpart => ?_⟩
    obtain ⟨skipping, part, cursor⟩ := stage
    obtain rfl : part = _ := hpart
    obtain ⟨position, hposition, hnext⟩ := Parser.Yields.exists_taken hyields
    have hbefore : position < limit := by rwa [Parser.withSkipping_finish] at hposition
    refine ⟨position, hbefore, hnext, fun hsize => ?_⟩
    rw [hnext]
    exact Cursor.next_ofNat (by omega)
  · intro stage hmakes
    exact hmakes.within hsetting hparser

/-- Letters from a blank on, with an end bound past the tokens. The blank is skipped, after which
the skip parser is tried once more. -/
theorem run_cursor_contract_from_blank :
    let letter : Kind String := ⟨0, "letter", some⟩
    let letters : Parser String (List String) := .many1 (.rule ⟨1, 0, "letter", 0⟩)
    let skip : Parser String Unit := .token ⟨1, "blank", fun _ => some ()⟩
    let session : Session String := ⟨⟨1, [⟨"letter", 0, .token letter⟩]⟩,
      ⟨#[⟨0, "letter", "a", .ofOffsets 0 1⟩, ⟨1, "blank", " ", .ofOffsets 1 2⟩,
        ⟨0, "letter", "b", .ofOffsets 2 3⟩], 3⟩⟩
    let setting := Setting.new session.tokens 9 session.grammar (some skip)
    let result := (session.run letters 1 9 (some skip)).value
    letters.Halts setting 1 ∧
    Parser.Makes setting ⟨true, ⟨_, letters⟩, 1⟩ ⟨false, ⟨_, skip⟩, 2⟩ ∧
    (∀ stage, Parser.Makes setting ⟨true, ⟨_, letters⟩, 1⟩ stage →
      1 ≤ stage.cursor ∧ stage.cursor ≤ 3 ∧
      ∀ value next, stage.Yields setting (.matched value next) →
        stage.cursor ≤ next ∧ next ≤ 3) ∧
    1 ≤ result.cursor ∧ result.cursor ≤ result.furthest ∧ result.furthest ≤ 3 := by
  intro letter letters skip session setting result
  have hhalts : letters.Halts setting 1 := ⟨8, by decide⟩
  have hgrammar : session.grammar.IsLibrary := by
    rintro rule (_ | ⟨_, ⟨⟩⟩)
    trivial
  have hskip : skip.IsLibrary := trivial
  obtain ⟨hyields, hmakes, -, hresult⟩ := run_cursor_contract session letters (some skip) 1 9
    hgrammar trivial (fun _ => hskip.of_some_eq) hhalts
  have hskips : setting.Skips 1 2 := .single ⟨by decide, skip, rfl, 8, ⟨0, []⟩, by rfl⟩
  refine ⟨hhalts, ?_, ?_, hresult⟩
  · let handle : Rule := ⟨1, 0, "letter", 0⟩
    have hrepeats : Parser.Tries setting ⟨true, ⟨_, letters⟩, 1⟩ _ := .begins (.many1 _)
    have hitem : Parser.Tries setting ⟨true, ⟨List String, .many (.rule handle)⟩, 1⟩ _ :=
      .begins (.many _)
    have hbody : Parser.Tries setting ⟨true, ⟨String, .rule handle⟩, 1⟩
        ⟨true, ⟨String, .token letter⟩, 1⟩ := .begins (.rule rfl)
    exact .head hrepeats (.head hitem (.head hbody (.single (.skips rfl hskips))))
  · intro stage hstage
    obtain ⟨hlibrary, hstart, hlimit⟩ := hmakes stage hstage
    refine ⟨hstart, hlimit, fun value next hmatched => ?_⟩
    obtain ⟨hle, hbound, -⟩ := hyields stage hlibrary value next hmatched
    exact ⟨hle, hbound.trans (Nat.max_le.2 ⟨hlimit, Nat.min_le_right _ _⟩)⟩

end Session

end TokenGrammar
