import Mathlib.Logic.Function.Basic
import TokenGrammar.Proofs.Lexicon.Registering

/-!
# Which tokens a kind accepts

Several lexicons are asked for definitions, in any order. A token comes from the request whose
definition is the first of its lexicon to match there, and a kind from the request that gave it out.
Kinds know definitions by their id alone. Within one lexicon this tells all definitions apart whose
index fits a word, so a kind accepts exactly the tokens that come from its own request. Definitions
of two lexicons have the same id if as many requests to their lexicons were granted before, and then
a kind of the one accepts the tokens of the other.
-/

namespace TokenGrammar

/-- Lexicons that go by number. -/
abbrev Lexicons := Nat → Lexicon

namespace Lexicons

def empty : Lexicons := fun _ => Lexicon.empty

/-- A request to one of the lexicons. -/
structure Step : Type 1 where
  number : Nat
  request : Lexicon.Request

def answer (lexicons : Lexicons) (engine : Engine) (step : Step) :
    Except DefinitionError (Σ α : Type, Kind α) × Lexicons :=
  let (result, lexicon) := (lexicons step.number).answer engine step.request
  (result, Function.update lexicons step.number lexicon)

def after (lexicons : Lexicons) (engine : Engine) (steps : List Step) : Lexicons :=
  steps.foldl (fun lexicons step => (lexicons.answer engine step).2) lexicons

/-- The definition that a step adds to the lexicon of a number. -/
def Step.adds? (engine : Engine) (number : Nat) (step : Step) : Option Definition :=
  if step.number = number then step.request.definition? engine else none

/-- How many definitions a lexicon has before the step at a place. -/
def sizeBefore (engine : Engine) (steps : List Step) (place number : Nat) : Nat :=
  ((steps.take place).filterMap (Step.adds? engine number)).length

/-- The step at a place asked the lexicon of a number and was given the kind. -/
def Issues (engine : Engine) (steps : List Step) (place number : Nat) {α : Type} (kind : Kind α) :
    Prop :=
  ∃ step, steps[place]? = some step ∧ step.number = number ∧
    ((empty.after engine (steps.take place)).answer engine step).1 = .ok ⟨α, kind⟩

/-- The step at a place added the definition that the token comes from: it takes the token's text
from where the token starts in the source, and no definition that the lexicon got before it matches
there. -/
def Origin (engine : Engine) (steps : List Step) (place number : Nat) (source : String)
    (token : Token) : Prop :=
  ∃ step definition rest, steps[place]? = some step ∧ step.adds? engine number = some definition ∧
    Text.slice? source.toList token.span.start.toNat source.utf8ByteSize =
      some (token.text.toList ++ rest) ∧
    definition.match? (token.text.toList ++ rest) = some token.text.utf8ByteSize ∧
    ∀ earlier other definition', earlier < place → steps[earlier]? = some other →
      other.adds? engine number = some definition' →
      definition'.match? (token.text.toList ++ rest) = none

variable {engine : Engine}

/-! ### Lexicons side by side -/

theorem definitions_answer (lexicons : Lexicons) (step : Step) (number : Nat) :
    ((lexicons.answer engine step).2 number).definitions =
      (lexicons number).definitions ++ (step.adds? engine number).toList := by
  simp only [answer, Step.adds?]
  by_cases hnumber : step.number = number
  · subst hnumber
    rw [Function.update_self, if_pos rfl]
    exact Lexicon.definitions_answer _ _ _
  · rw [Function.update_of_ne (Ne.symm hnumber), if_neg hnumber]
    exact (List.append_nil _).symm

/-- **Any number of steps** adds to a lexicon what was granted of the requests to it. -/
theorem definitions_after (lexicons : Lexicons) (steps : List Step) (number : Nat) :
    ((lexicons.after engine steps) number).definitions =
      (lexicons number).definitions ++ steps.filterMap (Step.adds? engine number) := by
  induction steps generalizing lexicons with
  | nil => exact (List.append_nil _).symm
  | cons step rest ih =>
    have hrest : ((lexicons.after engine (step :: rest)) number).definitions =
        ((lexicons.answer engine step).2 number).definitions ++
          rest.filterMap (Step.adds? engine number) := ih (lexicons.answer engine step).2
    rw [hrest, definitions_answer, List.append_assoc, List.filterMap_cons]
    cases step.adds? engine number <;> rfl

theorem definitions_after_empty (steps : List Step) (number : Nat) :
    ((empty.after engine steps) number).definitions =
      steps.filterMap (Step.adds? engine number) :=
  definitions_after empty steps number

section Places

variable {steps : List Step} {place number : Nat} {step : Step} {definition : Definition}

/-- What a step adds stands behind what was added before. -/
theorem getElem?_sizeBefore (hstep : steps[place]? = some step)
    (hadds : step.adds? engine number = some definition) :
    (steps.filterMap (Step.adds? engine number))[sizeBefore engine steps place number]? =
      some definition := by
  obtain ⟨hlt, rfl⟩ := List.getElem?_eq_some_iff.1 hstep
  have hsplit : steps = steps.take place ++ steps[place] :: steps.drop (place + 1) := by
    rw [← List.drop_eq_getElem_cons hlt, List.take_append_drop]
  conv => lhs; arg 1; rw [hsplit]
  rw [List.filterMap_append, sizeBefore, List.getElem?_append_right (Nat.le_refl _), Nat.sub_self,
    List.filterMap_cons_some hadds]
  rfl

theorem exists_place_of_getElem? {index : Nat}
    (h : (steps.filterMap (Step.adds? engine number))[index]? = some definition) :
    ∃ place step, steps[place]? = some step ∧ step.adds? engine number = some definition ∧
      sizeBefore engine steps place number = index := by
  induction steps generalizing index with
  | nil => cases h
  | cons first rest ih =>
    cases hfirst : first.adds? engine number with
    | none =>
      rw [List.filterMap_cons_none hfirst] at h
      obtain ⟨place, step, hstep, hadds, hindex⟩ := ih h
      refine ⟨place + 1, step, hstep, hadds, ?_⟩
      rw [sizeBefore, List.take_succ_cons, List.filterMap_cons_none hfirst]
      exact hindex
    | some added =>
      rw [List.filterMap_cons_some hfirst] at h
      cases index with
      | zero =>
        cases h
        exact ⟨0, first, rfl, hfirst, rfl⟩
      | succ index =>
        obtain ⟨place, step, hstep, hadds, hindex⟩ := ih h
        refine ⟨place + 1, step, hstep, hadds, ?_⟩
        rw [sizeBefore, List.take_succ_cons, List.filterMap_cons_some hfirst, List.length_cons]
        exact congrArg (· + 1) hindex

/-- A lexicon is larger after a request that was granted. -/
theorem sizeBefore_lt {later : Nat} (hstep : steps[place]? = some step)
    (hadds : step.adds? engine number = some definition) (hlater : place < later) :
    sizeBefore engine steps place number < sizeBefore engine steps later number := by
  have hstep' : (steps.take later)[place]? = some step := by
    rw [List.getElem?_take_of_lt hlater, hstep]
  have hentry := getElem?_sizeBefore hstep' hadds
  obtain ⟨hlt, -⟩ := List.getElem?_eq_some_iff.1 hentry
  rwa [sizeBefore, List.take_take, Nat.min_eq_left (Nat.le_of_lt hlater)] at hlt

theorem sizeBefore_eq_iff {place' : Nat} {step' : Step} {definition' : Definition}
    (hstep : steps[place]? = some step) (hadds : step.adds? engine number = some definition)
    (hstep' : steps[place']? = some step') (hadds' : step'.adds? engine number = some definition') :
    sizeBefore engine steps place' number = sizeBefore engine steps place number ↔
      place' = place := by
  constructor
  · intro hsize
    rcases Nat.lt_trichotomy place' place with hlt | heq | hlt
    · exact absurd hsize (Nat.ne_of_lt (sizeBefore_lt hstep' hadds' hlt))
    · exact heq
    · exact absurd hsize.symm (Nat.ne_of_lt (sizeBefore_lt hstep hadds hlt))
  · rintro rfl
    rfl

end Places

/-- Of the ids of one lexicon only those of indices that do not fit are the same. -/
theorem ofIndex_sizeBefore_eq_iff {steps : List Step} {place place' number : Nat}
    {step step' : Step} {definition definition' : Definition} (hstep : steps[place]? = some step)
    (hadds : step.adds? engine number = some definition) (hstep' : steps[place']? = some step')
    (hadds' : step'.adds? engine number = some definition') :
    Serial.ofIndex (sizeBefore engine steps place' number) =
        .ofIndex (sizeBefore engine steps place number) ↔
      place' = place ∨ Word.limit ≤ sizeBefore engine steps place' number ∧
        Word.limit ≤ sizeBefore engine steps place number := by
  rw [Serial.ofIndex_eq_iff, ← sizeBefore_eq_iff hstep hadds hstep' hadds']
  omega

/-! ### Kinds and tokens -/

/-- A kind has the id of the index at which its definition was added. -/
theorem Issues.exists_adds {steps : List Step} {place number : Nat} {α : Type} {kind : Kind α}
    (h : Issues engine steps place number kind) :
    ∃ step definition, steps[place]? = some step ∧ step.adds? engine number = some definition ∧
      kind.id = .ofIndex (sizeBefore engine steps place number) := by
  obtain ⟨step, hstep, rfl, hanswer⟩ := h
  simp only [answer, Lexicon.answer_eq] at hanswer
  cases hmake : Definition.make engine step.request.tag step.request.pattern with
  | error error =>
    rw [hmake] at hanswer
    cases hanswer
  | ok definition =>
    rw [hmake] at hanswer
    refine ⟨step, definition, hstep, ?_, ?_⟩
    · rw [Step.adds?, if_pos rfl, Lexicon.Request.definition?, hmake]
      rfl
    · have hkind : step.request.kind _ = ⟨α, kind⟩ := Except.ok.inj hanswer
      have hid : kind.id = .ofIndex (empty.after engine (steps.take place) step.number).size := by
        cases hrequest : step.request with
        | define tag pattern read =>
          rw [hrequest] at hkind
          cases hkind
          rfl
        | defineText tag pattern =>
          rw [hrequest] at hkind
          cases hkind
          rfl
      rw [hid, Lexicon.size, definitions_after_empty, sizeBefore]

theorem exists_origin {steps : List Step} {moment number : Nat} {source : String}
    {sequence : TokenSequence} {token : Token}
    (hscan : (empty.after engine (steps.take moment) number).scan source = .ok sequence)
    (htoken : token ∈ sequence.tokens) :
    ∃ place, place < moment ∧ Origin engine steps place number source token ∧
      token.id = .ofIndex (sizeBefore engine steps place number) := by
  obtain ⟨before, rest, hsource, hstart, -, hwins⟩ := Lexicon.exists_around_of_scan hscan htoken
  generalize hprobe : Probe.mk token.id token.tag token.text.utf8ByteSize = probe at hwins
  obtain ⟨hwinner, hmatch, hearlier⟩ := hwins
  obtain ⟨hid, -, rfl⟩ := Probe.mk.inj hprobe
  have hslice := Text.slice?_append before (token.text.toList ++ rest) []
  rw [List.append_nil, ← Text.byteSize_append, hsource, Text.byteSize_toList, hstart] at hslice
  rw [definitions_after_empty] at hwinner hearlier
  obtain ⟨place, step, hstep, hadds, rfl⟩ := exists_place_of_getElem? hwinner
  have hbefore : place < moment := by
    obtain ⟨hlt, -⟩ := List.getElem?_eq_some_iff.1 hstep
    rw [List.length_take] at hlt
    omega
  have hsame : ∀ {place}, place ≤ moment →
      sizeBefore engine (steps.take moment) place number =
        sizeBefore engine steps place number := by
    intro place hle
    rw [sizeBefore, List.take_take, Nat.min_eq_left hle, sizeBefore]
  rw [hsame (Nat.le_of_lt hbefore)] at hid hearlier
  rw [List.getElem?_take_of_lt hbefore] at hstep
  refine ⟨place, hbefore, ⟨step, _, rest, hstep, hadds, hslice, hmatch, ?_⟩, hid⟩
  intro earlier other definition' hlt hother hadds'
  have hother' : (steps.take moment)[earlier]? = some other := by
    rw [List.getElem?_take_of_lt (Nat.lt_trans hlt hbefore), hother]
  refine hearlier _ definition' ?_ (getElem?_sizeBefore hother' hadds')
  rw [hsame (Nat.le_of_lt (Nat.lt_trans hlt hbefore))]
  exact sizeBefore_lt hother hadds' hlt

/-- **Kinds and definitions.** Every scanned token comes from one of the requests so far. A kind
accepts it exactly if the number of definitions that its own lexicon had when it was given out has
the same id as the number of definitions that the token's lexicon had when it got the definition of
the token. So a kind of the same lexicon accepts it exactly if both come from the same request, as
long as one of these numbers fits a word. What a kind accepts it reads, and it gives nothing for the
rest. -/
theorem kinds_tell_definitions (engine : Engine) (steps : List Step) (moment number : Nat)
    (source : String) (sequence : TokenSequence) (token : Token)
    (hscan : (empty.after engine (steps.take moment) number).scan source = .ok sequence)
    (htoken : token ∈ sequence.tokens) :
    ∃ place, place < moment ∧ Origin engine steps place number source token ∧
      ∀ place' number' (α : Type) (kind : Kind α), Issues engine steps place' number' kind →
        (kind.accepts token = true ↔
          Serial.ofIndex (sizeBefore engine steps place' number') =
            .ofIndex (sizeBefore engine steps place number)) ∧
        (number' = number → (kind.accepts token = true ↔
          place' = place ∨ Word.limit ≤ sizeBefore engine steps place' number' ∧
            Word.limit ≤ sizeBefore engine steps place number)) ∧
        (kind.accepts token = true → kind.decode token = kind.read token.text) ∧
        (kind.accepts token = false → kind.decode token = none) := by
  obtain ⟨place, hbefore, horigin, hid⟩ := exists_origin hscan htoken
  refine ⟨place, hbefore, horigin, fun place' number' α kind hissues => ?_⟩
  obtain ⟨step', definition', hstep', hadds', hkind⟩ := hissues.exists_adds
  have haccepts : kind.accepts token = true ↔
      Serial.ofIndex (sizeBefore engine steps place' number') =
        .ofIndex (sizeBefore engine steps place number) := by
    rw [Kind.accepts, decide_eq_true_eq, hid, hkind]
    exact eq_comm
  refine ⟨haccepts, ?_, ?_, ?_⟩
  · rintro rfl
    obtain ⟨step, definition, -, hstep, hadds, -⟩ := horigin
    rw [haccepts]
    exact ofIndex_sizeBefore_eq_iff hstep hadds hstep' hadds'
  · intro htrue
    rw [Kind.decode, if_pos htrue]
  · intro hfalse
    rw [Kind.decode, hfalse]
    rfl

/-- The second definition of a lexicon, with one of another lexicon before it. -/
theorem kinds_tell_definitions_of_two_lexicons :
    let steps : List Step :=
      [⟨0, .defineText "A" "a"⟩, ⟨1, .defineText "B" "b"⟩, ⟨0, .defineText "C" "c"⟩]
    let token : Token := ⟨1, "C", "c", .ofOffsets 0 1⟩
    let first : Kind String := ⟨0, "A", some⟩
    let second : Kind String := ⟨1, "C", some⟩
    (empty.after .standard steps 0).scan "c" = .ok ⟨#[token], 1⟩ ∧
      Issues .standard steps 0 0 first ∧ Issues .standard steps 2 0 second ∧
      Origin .standard steps 2 0 "c" token ∧ first.decode token = none ∧
      second.decode token = some "c" := by
  intro steps token first second
  have hscan : (empty.after .standard steps 0).scan "c" = .ok ⟨#[token], 1⟩ := by rfl
  have hfirst : Issues .standard steps 0 0 first := ⟨_, rfl, rfl, by rfl⟩
  have hsecond : Issues .standard steps 2 0 second := ⟨_, rfl, rfl, by rfl⟩
  obtain ⟨place, -, horigin, hkinds⟩ :=
    kinds_tell_definitions .standard steps 3 0 "c" ⟨#[token], 1⟩ token hscan (by simp)
  obtain ⟨-, hown, hread, -⟩ := hkinds 2 0 String second hsecond
  obtain ⟨-, hother, -, hnone⟩ := hkinds 0 0 String first hfirst
  have hfits : sizeBefore .standard steps 2 0 = 1 := by rfl
  obtain rfl | ⟨hlarge, -⟩ := (hown rfl).1 rfl
  · exact ⟨hscan, hfirst, hsecond, horigin, hnone rfl, hread rfl⟩
  · rw [hfits] at hlarge
    exact absurd hlarge (by decide)

/-- The kind of one lexicon's first definition accepts and reads the tokens of another's. -/
theorem kind_reads_token_of_other_lexicon :
    let steps : List Step := [⟨0, .defineText "A" "a"⟩, ⟨1, .defineText "B" "b"⟩]
    let token : Token := ⟨0, "B", "b", .ofOffsets 0 1⟩
    let kind : Kind String := ⟨0, "A", some⟩
    (empty.after .standard steps 1).scan "b" = .ok ⟨#[token], 1⟩ ∧
      Origin .standard steps 1 1 "b" token ∧ Issues .standard steps 0 0 kind ∧
      kind.accepts token = true ∧ kind.decode token = some "b" := by
  intro steps token kind
  have hscan : (empty.after .standard (steps.take 2) 1).scan "b" = .ok ⟨#[token], 1⟩ := by rfl
  have htoken : token ∈ #[token] := by simp
  obtain ⟨place, hbefore, horigin, -⟩ := exists_origin hscan htoken
  have hplace : place = 1 := by
    obtain ⟨step, definition, -, hstep, hadds, -⟩ := horigin
    match place with
    | 0 =>
      cases hstep
      cases hadds
    | 1 => rfl
  rw [hplace] at horigin
  exact ⟨hscan, horigin, ⟨_, rfl, rfl, by rfl⟩, rfl, rfl⟩

end Lexicons

end TokenGrammar
