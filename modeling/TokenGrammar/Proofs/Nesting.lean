import TokenGrammar.Proofs.Parser.Unfolding
import TokenGrammar.Proofs.WholeMatch

/-!
# Nesting of events

The trace of a run is a sequence of brackets: a rule that is entered is left again, and what happens
in between is what the run of its body reports. Attempts that are given up leave their events in the
trace, so this has to hold of every attempt that ends, however it does. No event stands before the
position where the rule around it was entered.
-/

namespace TokenGrammar

namespace Parser

variable {ρ : Nat → Type}

/-- An attempt at the parser can end with this outcome and add these events, oldest first, to the
trace. -/
def Reports {α : Type} (setting : Setting ρ) (parser : Parser ρ α) (cursor : Nat)
    (outcome : Outcome α) (events : List Event) : Prop :=
  ∃ fuel before, (parser.run fuel setting cursor before).1 = outcome ∧
    (parser.run fuel setting cursor before).2.events = events.reverse ++ before.events

/-- Events, oldest first, that come from positions not before `start`. -/
inductive Nested (setting : Setting ρ) : Nat → List Event → Prop where
  | nil {start : Nat} : Nested setting start []
  | token {start position : Nat} {token : Token} {rest : List Event} (hle : start ≤ position)
      (hbound : position < setting.finish) (htoken : setting.tokens.get? position = some token)
      (hrest : Nested setting start rest) :
      Nested setting start (.tokenMatched token.tag token.text position :: rest)
  | unknown {start : Nat} {handle : Rule} {rest : List Event}
      (hbody : setting.grammar.body? handle = none) (hrest : Nested setting start rest) :
      Nested setting start (.unknownRule handle.name :: rest)
  | matched {start position final : Nat} {handle : Rule} {body : Parser ρ (ρ handle.output)}
      {skipping : Bool} {value : ρ handle.output} {inner rest : List Event}
      (hle : start ≤ position) (hadvance : position ≤ final)
      (hbody : setting.grammar.body? handle = some body)
      (hreports :
        body.Reports (withSkipping setting skipping) position (.matched value final) inner)
      (hinner : Nested setting position inner) (hrest : Nested setting start rest) :
      Nested setting start
        (.enteredRule handle.name position :: inner ++ .leftRule handle.name true final :: rest)
  | failed {start position : Nat} {handle : Rule} {body : Parser ρ (ρ handle.output)}
      {skipping : Bool} {inner rest : List Event} (hle : start ≤ position)
      (hbody : setting.grammar.body? handle = some body)
      (hreports : body.Reports (withSkipping setting skipping) position .failed inner)
      (hinner : Nested setting position inner) (hrest : Nested setting start rest) :
      Nested setting start
        (.enteredRule handle.name position :: inner ++ .leftRule handle.name false position :: rest)

namespace Nested

variable {setting : Setting ρ} {start start' : Nat} {events events' : List Event}

theorem mono (h : Nested setting start events) (hle : start' ≤ start) :
    Nested setting start' events := by
  induction h with
  | nil => exact .nil
  | token hstart hbound htoken _ ih => exact .token (hle.trans hstart) hbound htoken (ih hle)
  | unknown hbody _ ih => exact .unknown hbody (ih hle)
  | matched hstart hadvance hbody hreports hinner _ _ ih =>
    exact .matched (hle.trans hstart) hadvance hbody hreports hinner (ih hle)
  | failed hstart hbody hreports hinner _ _ ih =>
    exact .failed (hle.trans hstart) hbody hreports hinner (ih hle)

theorem append (h : Nested setting start events) (h' : Nested setting start events') :
    Nested setting start (events ++ events') := by
  induction h with
  | nil => exact h'
  | token hle hbound htoken _ ih => exact .token hle hbound htoken (ih h')
  | unknown hbody _ ih => exact .unknown hbody (ih h')
  | matched hle hadvance hbody hreports hinner _ _ ih =>
    rw [List.append_assoc]
    exact .matched hle hadvance hbody hreports hinner (ih h')
  | failed hle hbody hreports hinner _ _ ih =>
    rw [List.append_assoc]
    exact .failed hle hbody hreports hinner (ih h')

end Nested

end Parser

/-! ### What attempts report -/

namespace Attempt

variable {ρ : Nat → Type} {α β : Type}

/-- When the attempt ends, the events that it adds to the trace are nested. -/
def Nests (attempt : Attempt α) (setting : Setting ρ) (start : Nat) : Prop :=
  ∀ before, (attempt before).1 ≠ .exhausted → ∃ events,
    (attempt before).2.events = events.reverse ++ before.events ∧
      Parser.Nested setting start events

namespace Nests

variable {setting : Setting ρ} {attempt alternative : Attempt α} {onMatch : α → Nat → Attempt β}
  {onFailure : Attempt β} {start start' : Nat}

theorem mono (h : attempt.Nests setting start) (hle : start' ≤ start) :
    attempt.Nests setting start' := by
  intro before hends
  obtain ⟨events, hevents, hnested⟩ := h before hends
  exact ⟨events, hevents, hnested.mono hle⟩

theorem exhausted : (Attempt.exhausted : Attempt α).Nests setting start :=
  fun _ hends => absurd rfl hends

theorem matched (value : α) (next : Nat) : (Attempt.matched value next).Nests setting start :=
  fun _ _ => ⟨[], rfl, .nil⟩

theorem failed : (Attempt.failed : Attempt α).Nests setting start :=
  fun _ _ => ⟨[], rfl, .nil⟩

theorem refused (position : Nat) : (Attempt.refused position : Attempt α).Nests setting start :=
  fun _ _ => ⟨[], rfl, .nil⟩

theorem after {event : Event} (h : attempt.Nests setting start)
    (hevent : ∀ rest, Parser.Nested setting start rest →
      Parser.Nested setting start (event :: rest)) :
    (attempt.after event).Nests setting start := by
  intro before hends
  obtain ⟨events, hevents, hnested⟩ := h (before.record event) hends
  refine ⟨event :: events, ?_, hevent events hnested⟩
  rw [Attempt.after, hevents, Progress.record, List.reverse_cons, List.append_assoc]
  rfl

theorem resume (h : attempt.Nests setting start)
    (hmatch : ∀ value next, (∃ before, (attempt before).1 = .matched value next) →
      (onMatch value next).Nests setting start)
    (hfail : onFailure.Nests setting start) :
    (attempt.resume onMatch onFailure).Nests setting start := by
  intro before hends
  have hfirst := h before
  have hjoin : ∀ (middle : Progress) (second : Attempt β), second.Nests setting start →
      (∃ events, middle.events = events.reverse ++ before.events ∧
        Parser.Nested setting start events) → (second middle).1 ≠ .exhausted →
      ∃ events, (second middle).2.events = events.reverse ++ before.events ∧
        Parser.Nested setting start events := by
    rintro middle second hsecond ⟨events, hevents, hnested⟩ hends
    obtain ⟨events', hevents', hnested'⟩ := hsecond middle hends
    refine ⟨events ++ events', ?_, hnested.append hnested'⟩
    rw [hevents', hevents, List.reverse_append, List.append_assoc]
  unfold Attempt.resume at hends ⊢
  split at hends
  · next value next middle hattempt =>
    rw [hattempt] at hfirst
    exact hjoin middle _ (hmatch value next ⟨before, by rw [hattempt]⟩) (hfirst (by simp)) hends
  · next middle hattempt =>
    rw [hattempt] at hfirst
    exact hjoin middle _ hfail (hfirst (by simp)) hends
  · exact absurd rfl hends

theorem andThen (h : attempt.Nests setting start)
    (hmatch : ∀ value next, (∃ before, (attempt before).1 = .matched value next) →
      (onMatch value next).Nests setting start) :
    (attempt.andThen onMatch).Nests setting start :=
  h.resume hmatch failed

theorem orElse (h : attempt.Nests setting start) (h' : alternative.Nests setting start) :
    (attempt.orElse alternative).Nests setting start :=
  h.resume (fun value next _ => matched value next) h'

theorem map (f : α → β) (h : attempt.Nests setting start) : (attempt.map f).Nests setting start :=
  h.andThen fun value next _ => matched (f value) next

theorem chain {attempt : Nat → Attempt Unit} (rounds : Nat) {cursor : Nat} (hstart : start ≤ cursor)
    (h : ∀ reached, start ≤ reached → (attempt reached).Nests setting start) :
    (Attempt.chain attempt rounds cursor).Nests setting start := by
  induction rounds generalizing cursor with
  | zero => exact exhausted
  | succ rounds ih =>
    refine (h cursor hstart).resume (fun _ next _ => ?_) (matched () cursor)
    split
    · next hlt => exact ih (hstart.trans hlt.le)
    · exact matched () cursor

end Nests

end Attempt

namespace Parser

variable {ρ : Nat → Type} {setting : Setting ρ}

theorem take_nests {α : Type} (skipping : Bool) (wanted : Primitive α) (cursor : Nat) :
    (take (withSkipping setting skipping) wanted cursor).Nests setting cursor := by
  unfold take
  split
  · exact .refused cursor
  · next token htoken =>
    split
    · exact .refused cursor
    · next value hdecode =>
      have hbound := Setting.lt_finish_of_tokenAt htoken
      rw [Setting.tokenAt, if_pos hbound] at htoken
      rw [withSkipping_finish] at hbound
      have htokens : (withSkipping setting skipping).tokens = setting.tokens := by
        cases skipping <;> rfl
      rw [htokens] at htoken
      exact .after (.matched value (cursor + 1)) fun _ => .token (Nat.le_refl cursor) hbound htoken

/-- How an attempt inside a rule ends, and what the rule adds to its events. -/
theorem enter_cases {α : Type} {name : String} {cursor : Nat} {body : Attempt α} {before : Progress}
    (hends : (enter name cursor body before).1 ≠ .exhausted) :
    (∃ value final after,
      body (before.record (.enteredRule name cursor)) = (.matched value final, after) ∧
        enter name cursor body before =
          (.matched value final, after.record (.leftRule name true final))) ∨
    ∃ after, body (before.record (.enteredRule name cursor)) = (.failed, after) ∧
      enter name cursor body before = (.failed, after.record (.leftRule name false cursor)) := by
  unfold enter Attempt.after Attempt.resume at hends ⊢
  split at hends
  · next value final after hrun => exact .inl ⟨value, final, after, hrun, rfl⟩
  · next after hrun => exact .inr ⟨after, hrun, rfl⟩
  · exact absurd rfl hends

theorem events_enter {name : String} {cursor : Nat} {before after : Progress} {inner : List Event}
    (h : after.events = inner.reverse ++ (before.record (.enteredRule name cursor)).events)
    (exit : Event) :
    (after.record exit).events =
      (.enteredRule name cursor :: inner ++ [exit]).reverse ++ before.events := by
  simp [Progress.record] at h ⊢
  exact h

/-- What the body of a rule reports stands between the entry of the rule and its exit. -/
theorem enter_nests {skipping : Bool} {fuel cursor : Nat} {handle : Rule}
    {body : Parser ρ (ρ handle.output)}
    (hbody : setting.grammar.body? handle = some body)
    (h : (body.run fuel (withSkipping setting skipping) cursor).Nests setting cursor)
    (hadvance : (body.run fuel (withSkipping setting skipping) cursor).Ensures fun _ next =>
      cursor ≤ next) :
    (enter handle.name cursor (body.run fuel (withSkipping setting skipping) cursor)).Nests setting
      cursor := by
  intro before hends
  set entered := before.record (.enteredRule handle.name cursor)
  have hinner := h entered
  obtain ⟨value, final, after, hrun, henter⟩ | ⟨after, hrun, henter⟩ := enter_cases hends
  · rw [hrun] at hinner
    obtain ⟨inner, hevents, hnested⟩ := hinner (by simp)
    have hreports : body.Reports (withSkipping setting skipping) cursor (.matched value final)
        inner := ⟨fuel, entered, by rw [hrun], by rw [hrun, hevents]⟩
    have hle : cursor ≤ final := hadvance entered value final (by rw [hrun])
    rw [henter]
    exact ⟨_, events_enter hevents _, .matched le_rfl hle hbody hreports hnested .nil⟩
  · rw [hrun] at hinner
    obtain ⟨inner, hevents, hnested⟩ := hinner (by simp)
    have hreports : body.Reports (withSkipping setting skipping) cursor .failed inner :=
      ⟨fuel, entered, by rw [hrun], by rw [hrun, hevents]⟩
    rw [henter]
    exact ⟨_, events_enter hevents _, .failed le_rfl hbody hreports hnested .nil⟩

theorem skipFrom_nests {skipping : Bool} {fuel start cursor : Nat} (hstart : start ≤ cursor)
    (h : ∀ skip reached, setting.skip? = some skip → start ≤ reached →
      (skip.run fuel setting.withoutSkip reached).Nests setting start) :
    (skipFrom fuel (withSkipping setting skipping) cursor).Nests setting start := by
  cases hskip : (withSkipping setting skipping).skip? with
  | none =>
    rw [skipFrom_of_none hskip]
    exact .matched () cursor
  | some skip =>
    cases skipping with
    | false => cases hskip
    | true =>
      rw [skipFrom_of_some hskip]
      exact .chain fuel hstart fun reached hreached => h skip reached hskip hreached

/-- **Nesting, any attempt.** What a library parser adds to the trace in an attempt that ends is
nested, from where the attempt starts. -/
theorem run_nests (hsetting : setting.IsLibrary) (fuel : Nat) (skipping : Bool) {α : Type}
    {parser : Parser ρ α} (hparser : parser.IsLibrary) (cursor : Nat) :
    (parser.run fuel (withSkipping setting skipping) cursor).Nests setting cursor := by
  induction fuel generalizing skipping α cursor with
  | zero => exact .exhausted
  | succ fuel ih =>
    -- All that an attempt tries itself starts at its cursor or later.
    have hcall : ∀ {next : Stage ρ}, Tries setting ⟨skipping, ⟨α, parser⟩, cursor⟩ next →
        (next.part.2.run fuel (withSkipping setting next.skipping) next.cursor).Nests setting
          cursor := fun {next} htries =>
      (ih next.skipping (htries.isLibrary hsetting hparser) next.cursor).mono
        (htries.within hsetting hparser).1
    cases parser with
    | primitive wanted =>
      rw [run_primitive]
      have hskipped : (skipFrom fuel (withSkipping setting skipping) cursor).Nests setting
          cursor := skipFrom_nests (Nat.le_refl cursor) fun skip reached hskip hreached =>
        (ih false (hsetting.skip skip hskip) reached).mono hreached
      refine hskipped.andThen fun _ position ⟨before, hmatched⟩ => ?_
      have hskips := skipFrom_ensures_skips fuel (withSkipping setting skipping) cursor before _ _
        hmatched
      have hle := (hskips.within (withSkipping_isLibrary hsetting skipping)).1
      exact (take_nests skipping wanted position).mono hle
    | seq first second =>
      rw [run_seq]
      exact (hcall (.begins (.seq first second))).andThen fun _ _ ⟨before, hmatched⟩ =>
        (hcall (.follows (.seq first second) ⟨fuel, before, hmatched⟩)).map _
    | thenIgnore first second =>
      rw [run_thenIgnore]
      exact (hcall (.begins (.thenIgnore first second))).andThen fun _ _ ⟨before, hmatched⟩ =>
        (hcall (.follows (.thenIgnore first second) ⟨fuel, before, hmatched⟩)).map _
    | ignoreThen first second =>
      rw [run_ignoreThen]
      exact (hcall (.begins (.ignoreThen first second))).andThen fun _ _ ⟨before, hmatched⟩ =>
        hcall (.follows (.ignoreThen first second) ⟨fuel, before, hmatched⟩)
    | alt first second =>
      rw [run_alt]
      exact (ih skipping hparser.1 cursor).orElse (ih skipping hparser.2 cursor)
    | either first second =>
      rw [run_either]
      exact ((ih skipping hparser.1 cursor).map _).orElse ((ih skipping hparser.2 cursor).map _)
    | many item =>
      rw [run_many]
      refine (hcall (.begins (.many item))).resume ?_ (.matched [] cursor)
      rintro value next ⟨before, hmatched⟩
      split
      · next hlt => exact (hcall (.repeats ⟨fuel, before, hmatched⟩ hlt)).map _
      · exact .matched [value] cursor
    | many1 item =>
      rw [run_many1]
      refine (hcall (.begins (.many1 item))).andThen fun values next _ => ?_
      split
      · exact .failed
      · exact .matched values next
    | exclude inner excluded =>
      rw [run_exclude]
      exact (hcall (.begins (.exclude inner excluded))).andThen fun value next _ =>
        (ih skipping hparser.2 cursor).resume (fun _ _ _ => .failed) (.matched value next)
    | discard inner =>
      rw [run_discard]
      exact (hcall (.begins (.discard inner))).map _
    | optional inner =>
      rw [run_optional]
      exact ((hcall (.begins (.optional inner))).map _).orElse (.matched none cursor)
    | map f inner =>
      rw [run_map]
      exact (hcall (.begins (.map f inner))).map f
    | rule handle =>
      rw [run_rule, withSkipping_grammar]
      cases hbody : setting.grammar.body? handle with
      | none => exact .after .failed fun _ => .unknown hbody
      | some body =>
        have hlibrary := hsetting.grammar.body hbody
        refine enter_nests hbody (hcall (.begins (.rule hbody)))
          fun before value next hmatched => ?_
        have hyields : body.Yields (withSkipping setting skipping) cursor (.matched value next) :=
          ⟨fuel, before, hmatched⟩
        exact (hyields.within (withSkipping_isLibrary hsetting skipping) hlibrary).1
    | unskipped inner => exact hparser.elim
    | custom act => exact hparser.elim

theorem Reports.of_rule (hsetting : setting.IsLibrary) {skipping : Bool} {cursor : Nat}
    {handle : Rule} {body : Parser ρ (ρ handle.output)} {outcome : Outcome (ρ handle.output)}
    {events : List Event}
    (hbody : setting.grammar.body? handle = some body)
    (hreports : (rule handle).Reports (withSkipping setting skipping) cursor outcome events)
    (hends : outcome ≠ .exhausted) :
    ∃ inner, body.Reports (withSkipping setting skipping) cursor outcome inner ∧
      ((∃ value final, outcome = .matched value final ∧ events =
          .enteredRule handle.name cursor :: inner ++ [.leftRule handle.name true final]) ∨
        outcome = .failed ∧ events =
          .enteredRule handle.name cursor :: inner ++ [.leftRule handle.name false cursor]) := by
  obtain ⟨fuel, before, rfl, hevents⟩ := hreports
  cases fuel with
  | zero => exact absurd rfl hends
  | succ fuel =>
    have hgrammar : (withSkipping setting skipping).grammar.body? handle = some body := by
      rwa [withSkipping_grammar]
    rw [run_rule_of_some hgrammar] at hevents hends ⊢
    set entered := before.record (.enteredRule handle.name cursor)
    have hinner := run_nests hsetting fuel skipping (hsetting.grammar.body hbody) cursor entered
    -- The events are those that the run has added, so they are told by its trace.
    have hsame : ∀ {after : Progress} {inner : List Event} (exit : Event),
        after.events = inner.reverse ++ entered.events →
        (after.record exit).events = events.reverse ++ before.events →
        events = .enteredRule handle.name cursor :: inner ++ [exit] := by
      intro after inner exit hafter hadded
      rw [events_enter hafter] at hadded
      exact (List.reverse_injective (List.append_cancel_right hadded)).symm
    obtain ⟨value, final, after, hrun, henter⟩ | ⟨after, hrun, henter⟩ := enter_cases hends
    · rw [hrun] at hinner
      obtain ⟨inner, hafter, -⟩ := hinner (by simp)
      rw [henter] at hevents ⊢
      exact ⟨inner, ⟨fuel, entered, by rw [hrun], by rw [hrun, hafter]⟩,
        .inl ⟨value, final, rfl, hsame _ hafter hevents⟩⟩
    · rw [hrun] at hinner
      obtain ⟨inner, hafter, -⟩ := hinner (by simp)
      rw [henter] at hevents ⊢
      exact ⟨inner, ⟨fuel, entered, by rw [hrun], by rw [hrun, hafter]⟩,
        .inr ⟨rfl, hsame _ hafter hevents⟩⟩

end Parser

namespace Session

variable {ρ : Nat → Type} {α : Type}

/-- What an attempt at all tokens reports, and behind it the error if there is one. -/
theorem parseAll_events (session : Session ρ) (parser : Parser ρ α)
    (skip? : Option (Parser ρ Unit)) :
    let fuel := session.allowance parser skip?
    let setting := Setting.new session.tokens session.tokens.size session.grammar skip?
    let attempt := (parser.run fuel setting 0).andThen fun value next =>
      (Parser.skipFrom fuel setting next).map fun _ => value
    (session.parseAll parser skip?).events = (attempt ⟨0, []⟩).2.events.reverse ∨
      ∃ error, (session.parseAll parser skip?).value = .error error ∧
        (session.parseAll parser skip?).events =
          (attempt ⟨0, []⟩).2.events.reverse ++ [.parseFailed error.message] := by
  intro fuel setting attempt
  have hrecord : ∀ (progress : Progress) (event : Event),
      (progress.record event).events.reverse = progress.events.reverse ++ [event] :=
    fun _ _ => List.reverse_cons
  simp only [parseAll, attempt, fuel, setting]
  generalize (Attempt.andThen _ _ : Attempt α) ⟨0, []⟩ = result
  obtain ⟨outcome, progress⟩ := result
  cases outcome with
  | matched value rest =>
    simp only
    split
    · exact .inl rfl
    · exact .inr ⟨_, rfl, hrecord _ _⟩
  | failed => exact .inr ⟨_, rfl, hrecord _ _⟩
  | exhausted => exact .inr ⟨_, rfl, hrecord _ _⟩

section Library

variable {session : Session ρ} {parser : Parser ρ α} {skip? : Option (Parser ρ Unit)}

variable (hgrammar : session.grammar.IsLibrary) (hparser : parser.IsLibrary)
  (hskip : ∀ skip, skip? = some skip → skip.IsLibrary)

include hgrammar hparser hskip

theorem run_events_nested {start finish : Nat}
    (hhalts : parser.Halts (Setting.new session.tokens finish session.grammar skip?) start) :
    Parser.Nested (Setting.new session.tokens finish session.grammar skip?) start
      (session.run parser start finish skip?).events := by
  have hends := run_allowance_ne_exhausted hgrammar hparser hskip hhalts ⟨start, []⟩
  have hsetting : (Setting.new session.tokens finish session.grammar skip?).IsLibrary :=
    ⟨hgrammar, hskip⟩
  obtain ⟨events, hevents, hnested⟩ :=
    Parser.run_nests hsetting (session.allowance parser skip?) true hparser start ⟨start, []⟩ hends
  rw [List.append_nil] at hevents
  rw [← List.reverse_reverse events, ← hevents] at hnested
  exact hnested

theorem parseAll_events_nested
    (hhalts : parser.Halts
      (Setting.new session.tokens session.tokens.size session.grammar skip?) 0)
    (hskipping : ∀ value next,
      parser.Yields (Setting.new session.tokens session.tokens.size session.grammar skip?) 0
        (.matched value next) →
      (Setting.new session.tokens session.tokens.size session.grammar skip?).SkippingHalts next) :
    ∃ events, Parser.Nested
        (Setting.new session.tokens session.tokens.size session.grammar skip?) 0 events ∧
      ((session.parseAll parser skip?).events = events ∨
        ∃ error, (session.parseAll parser skip?).value = .error error ∧
          (session.parseAll parser skip?).events = events ++ [.parseFailed error.message]) := by
  have hcases := parseAll_events session parser skip?
  set setting := Setting.new session.tokens session.tokens.size session.grammar skip?
  have hsetting : setting.IsLibrary := ⟨hgrammar, hskip⟩
  set fuel := session.allowance parser skip?
  set attempt := (parser.run fuel setting 0).andThen fun value next =>
    (Parser.skipFrom fuel setting next).map fun _ => value
  have hnests : attempt.Nests setting 0 := by
    refine (Parser.run_nests hsetting fuel true hparser 0).andThen fun value next _ => ?_
    have hskipped :
        (Parser.skipFrom fuel (Parser.withSkipping setting true) next).Nests setting 0 :=
      Parser.skipFrom_nests (Nat.zero_le next) fun skip reached hsome _ =>
        (Parser.run_nests hsetting fuel false (hskip skip hsome) reached).mono (Nat.zero_le reached)
    exact hskipped.map _
  have hends : (attempt ⟨0, []⟩).1 ≠ .exhausted := by
    obtain ⟨outcome, reach, hne, hanswers⟩ := hhalts.answers hsetting hparser
    have hgives := run_allowance_gives hgrammar hparser hskip hanswers hne
    cases outcome with
    | exhausted => exact absurd rfl hne
    | failed =>
      rw [((hgives.andThen_of_failed _) ⟨0, []⟩).1]
      simp
    | matched value next =>
      obtain ⟨rest, reach', hlands⟩ := (hskipping value next hanswers.yields).lands hsetting
      have hskipped := skipFrom_allowance_gives_of_lands hgrammar hparser hskip hlands
      rw [((hgives.andThen (hskipped.map fun _ => value)) ⟨0, []⟩).1]
      simp [Outcome.map]
  obtain ⟨events, hevents, hnested⟩ := hnests ⟨0, []⟩ hends
  have hreverse : (attempt ⟨0, []⟩).2.events.reverse = events := by
    rw [hevents, List.append_nil, List.reverse_reverse]
  rw [← hreverse] at hnested
  exact ⟨_, hnested, hcases⟩

end Library

/-- **Traces mirror the calls.** The trace of a run of a library parser that halts is nested: each
exit closes the rule entered last of those still open, at the position of its entry if the rule
failed and not before it otherwise, nothing in between stands before that position, and tokens are
those of the session before the end bound. The same holds of a match of all tokens, behind which an
error is reported if there is one. Wherever a run tries a rule of the grammar, this adds the entry,
what the body adds there, and the exit that its outcome asks for. A rule that is not of the grammar
adds one error and fails. -/
theorem events_mirror_calls (session : Session ρ) (parser : Parser ρ α)
    (skip? : Option (Parser ρ Unit)) (start finish : Nat) (hgrammar : session.grammar.IsLibrary)
    (hparser : parser.IsLibrary) (hskip : ∀ skip, skip? = some skip → skip.IsLibrary)
    (hhalts : parser.Halts (Setting.new session.tokens finish session.grammar skip?) start) :
    let setting := Setting.new session.tokens finish session.grammar skip?
    let whole := Setting.new session.tokens session.tokens.size session.grammar skip?
    Parser.Nested setting start (session.run parser start finish skip?).events ∧
    (parser.Halts whole 0 →
      (∀ value next, parser.Yields whole 0 (.matched value next) → whole.SkippingHalts next) →
      ∃ events, Parser.Nested whole 0 events ∧
        ((session.parseAll parser skip?).events = events ∨
          ∃ error, (session.parseAll parser skip?).value = .error error ∧
            (session.parseAll parser skip?).events = events ++ [.parseFailed error.message])) ∧
    ∀ (handle : Rule) (skipping : Bool) (cursor : Nat),
      (∀ body outcome events, session.grammar.body? handle = some body →
        (Parser.rule handle).Reports (Parser.withSkipping setting skipping) cursor outcome events →
        outcome ≠ .exhausted →
        ∃ inner, body.Reports (Parser.withSkipping setting skipping) cursor outcome inner ∧
          ((∃ value final, outcome = .matched value final ∧ events =
              .enteredRule handle.name cursor :: inner ++ [.leftRule handle.name true final]) ∨
            outcome = .failed ∧ events =
              .enteredRule handle.name cursor :: inner ++ [.leftRule handle.name false cursor])) ∧
      (session.grammar.body? handle = none → ∀ fuel before,
        (Parser.rule handle).run (fuel + 1) (Parser.withSkipping setting skipping) cursor before =
          (.failed, before.record (.unknownRule handle.name))) := by
  intro setting whole
  have hsetting : setting.IsLibrary := ⟨hgrammar, hskip⟩
  refine ⟨run_events_nested hgrammar hparser hskip hhalts,
    parseAll_events_nested hgrammar hparser hskip, fun handle skipping cursor => ⟨?_, ?_⟩⟩
  · intro body outcome events hbody hreports hends
    exact hreports.of_rule hsetting hbody hends
  · intro hbody fuel before
    have hnone : (Parser.withSkipping setting skipping).grammar.body? handle = none := by
      rwa [Parser.withSkipping_grammar]
    rw [Parser.run_rule, hnone]
    rfl

/-- Letters, before each of which a rule of another grammar is tried. Skipping a blank enters a rule
too. It ends beyond the position where the letter that should have followed is given up. -/
theorem events_mirror_calls_of_letter :
    let letter : Parser String String := .rule ⟨1, 0, "letter", 0⟩
    let blank : Parser String String := .rule ⟨1, 1, "blank", 0⟩
    let letters : Parser String (List String) := .many1 (.alt (.rule ⟨2, 0, "digit", 0⟩) letter)
    let session : Session String :=
      ⟨⟨1, [⟨"letter", 0, .token ⟨0, "letter", some⟩⟩, ⟨"blank", 0, .token ⟨1, "blank", some⟩⟩]⟩,
        ⟨#[⟨0, "letter", "a", .ofOffsets 0 1⟩, ⟨1, "blank", " ", .ofOffsets 1 2⟩], 2⟩⟩
    let setting := Setting.new session.tokens 2 session.grammar (some (.discard blank))
    letters.Halts setting 0 ∧ Parser.Nested setting 0
      [.unknownRule "digit", .enteredRule "letter" 0, .enteredRule "blank" 0,
        .leftRule "blank" false 0, .tokenMatched "letter" "a" 0, .leftRule "letter" true 1,
        .unknownRule "digit", .enteredRule "letter" 1, .enteredRule "blank" 1,
        .tokenMatched "blank" " " 1, .leftRule "blank" true 2, .enteredRule "blank" 2,
        .leftRule "blank" false 2, .leftRule "letter" false 1] := by
  intro letter blank letters session setting
  have hhalts : letters.Halts setting 0 := ⟨12, by decide⟩
  have hgrammar : session.grammar.IsLibrary := by
    rintro rule (_ | ⟨_, _ | ⟨_, ⟨⟩⟩⟩)
    · trivial
    · trivial
  have hskip : (Parser.discard blank).IsLibrary := trivial
  obtain ⟨hnested, -⟩ := events_mirror_calls session letters (some (.discard blank)) 0 2 hgrammar
    ⟨trivial, trivial⟩ (fun _ => hskip.of_some_eq) hhalts
  exact ⟨hhalts, hnested⟩

end Session

end TokenGrammar
