import TokenGrammar.Proofs.Parser.Trials

/-!
# Rules are transparent

A rule stands for its body. A parser, or the bodies of a grammar, may have bodies in place of some
of the rules that they mention; this makes no difference to where runs end, what they give and what
they refuse, and none to whether they end at all. The two runs do not enter the same rules, and so
do not need the same fuel: each of them keeps up with the other as soon as it has enough.
-/

namespace TokenGrammar

/-! ### Unfolding -/

namespace Parser

variable {ρ : Nat → Type}

/-- The second parser is the first one with some rules replaced by their bodies, and the others
named as in the second grammar. Rules in those bodies may be replaced in turn. -/
inductive Unfolds (grammar grammar' : Grammar (RuleBody ρ)) :
    {α : Type} → Parser ρ α → Parser ρ α → Prop where
  | primitive {α : Type} (wanted : Primitive α) :
      Unfolds grammar grammar' (primitive wanted) (primitive wanted)
  | seq {α β : Type} {a a' : Parser ρ α} {b b' : Parser ρ β} (ha : Unfolds grammar grammar' a a')
      (hb : Unfolds grammar grammar' b b') : Unfolds grammar grammar' (seq a b) (seq a' b')
  | thenIgnore {α β : Type} {a a' : Parser ρ α} {b b' : Parser ρ β}
      (ha : Unfolds grammar grammar' a a') (hb : Unfolds grammar grammar' b b') :
      Unfolds grammar grammar' (thenIgnore a b) (thenIgnore a' b')
  | ignoreThen {α β : Type} {a a' : Parser ρ α} {b b' : Parser ρ β}
      (ha : Unfolds grammar grammar' a a') (hb : Unfolds grammar grammar' b b') :
      Unfolds grammar grammar' (ignoreThen a b) (ignoreThen a' b')
  | alt {α : Type} {a a' b b' : Parser ρ α} (ha : Unfolds grammar grammar' a a')
      (hb : Unfolds grammar grammar' b b') : Unfolds grammar grammar' (alt a b) (alt a' b')
  | either {α β : Type} {a a' : Parser ρ α} {b b' : Parser ρ β}
      (ha : Unfolds grammar grammar' a a') (hb : Unfolds grammar grammar' b b') :
      Unfolds grammar grammar' (either a b) (either a' b')
  | many {α : Type} {a a' : Parser ρ α} (ha : Unfolds grammar grammar' a a') :
      Unfolds grammar grammar' (many a) (many a')
  | many1 {α : Type} {a a' : Parser ρ α} (ha : Unfolds grammar grammar' a a') :
      Unfolds grammar grammar' (many1 a) (many1 a')
  | exclude {α β : Type} {a a' : Parser ρ α} {b b' : Parser ρ β}
      (ha : Unfolds grammar grammar' a a') (hb : Unfolds grammar grammar' b b') :
      Unfolds grammar grammar' (exclude a b) (exclude a' b')
  | discard {α : Type} {a a' : Parser ρ α} (ha : Unfolds grammar grammar' a a') :
      Unfolds grammar grammar' (discard a) (discard a')
  | optional {α : Type} {a a' : Parser ρ α} (ha : Unfolds grammar grammar' a a') :
      Unfolds grammar grammar' (optional a) (optional a')
  | map {α β : Type} (f : α → β) {a a' : Parser ρ α} (ha : Unfolds grammar grammar' a a') :
      Unfolds grammar grammar' (map f a) (map f a')
  /-- The rule in the place of this one, or both are foreign. -/
  | rule {handle : Rule} {owner : UInt32}
      (howner : owner = grammar'.owner ↔ handle.owner = grammar.owner) :
      Unfolds grammar grammar' (rule handle) (rule { handle with owner })
  /-- The body in place of the rule. -/
  | body {handle : Rule} {body body' : Parser ρ (ρ handle.output)}
      (hbody : grammar.body? handle = some body) (h : Unfolds grammar grammar' body body') :
      Unfolds grammar grammar' (rule handle) body'

end Parser

/-- A rule of the same name and with values of the same type, with a body that is unfolded. -/
inductive BoundRule.Unfolds {ρ : Nat → Type} (grammar grammar' : Grammar (RuleBody ρ)) :
    BoundRule (RuleBody ρ) → BoundRule (RuleBody ρ) → Prop where
  | intro (name : String) (output : Nat) {body body' : Parser ρ (ρ output)}
      (h : Parser.Unfolds grammar grammar' body body') :
      Unfolds grammar grammar' ⟨name, output, body⟩ ⟨name, output, body'⟩

/-- The same rules by name, with some of the rules that their bodies mention replaced by bodies. -/
def Grammar.Unfolds {ρ : Nat → Type} (grammar grammar' : Grammar (RuleBody ρ)) : Prop :=
  List.Forall₂ (BoundRule.Unfolds grammar grammar') grammar.rules grammar'.rules

/-- What skipping does before a token may be unfolded as well. -/
structure Setting.Unfolds {ρ : Nat → Type} (first second : Setting ρ) : Prop where
  tokens : second.tokens = first.tokens
  finish : second.finish = first.finish
  grammar : first.grammar.Unfolds second.grammar
  skip : Option.Rel (Parser.Unfolds first.grammar second.grammar) first.skip? second.skip?

namespace Parser

variable {ρ : Nat → Type} {α : Type} {grammar grammar' : Grammar (RuleBody ρ)}

theorem Unfolds.isLibrary {parser parser' : Parser ρ α}
    (h : Unfolds grammar grammar' parser parser') : parser.IsLibrary ∧ parser'.IsLibrary := by
  induction h with
  | primitive | rule => exact ⟨trivial, trivial⟩
  | seq _ _ iha ihb | thenIgnore _ _ iha ihb | ignoreThen _ _ iha ihb | alt _ _ iha ihb
  | either _ _ iha ihb | exclude _ _ iha ihb => exact ⟨⟨iha.1, ihb.1⟩, iha.2, ihb.2⟩
  | many _ ih | many1 _ ih | discard _ ih | optional _ ih | map _ _ ih => exact ih
  | body _ _ ih => exact ⟨trivial, ih.2⟩

/-- Nothing has to be replaced. So a body may take the place of its rule as it stands. -/
theorem IsLibrary.unfolds_self (howner : grammar'.owner = grammar.owner) {parser : Parser ρ α}
    (h : parser.IsLibrary) : Unfolds grammar grammar' parser parser := by
  induction parser with
  | primitive wanted => exact .primitive wanted
  | seq _ _ iha ihb => exact .seq (iha h.1) (ihb h.2)
  | thenIgnore _ _ iha ihb => exact .thenIgnore (iha h.1) (ihb h.2)
  | ignoreThen _ _ iha ihb => exact .ignoreThen (iha h.1) (ihb h.2)
  | alt _ _ iha ihb => exact .alt (iha h.1) (ihb h.2)
  | either _ _ iha ihb => exact .either (iha h.1) (ihb h.2)
  | many _ ih => exact .many (ih h)
  | many1 _ ih => exact .many1 (ih h)
  | exclude _ _ iha ihb => exact .exclude (iha h.1) (ihb h.2)
  | discard _ ih => exact .discard (ih h)
  | optional _ ih => exact .optional (ih h)
  | map f _ ih => exact .map f (ih h)
  | rule handle => exact .rule (by rw [howner])
  | unskipped => exact h.elim
  | custom => exact h.elim

end Parser

namespace Grammar

variable {ρ : Nat → Type} {grammar grammar' : Grammar (RuleBody ρ)}

theorem Unfolds.body_cases (hgrammar : grammar.Unfolds grammar') {handle : Rule} {owner : UInt32}
    (howner : owner = grammar'.owner ↔ handle.owner = grammar.owner) :
    grammar.body? handle = none ∧ grammar'.body? { handle with owner } = none ∨
      ∃ body body', grammar.body? handle = some body ∧
        grammar'.body? { handle with owner } = some body' ∧
        Parser.Unfolds grammar grammar' body body' := by
  have hsize : grammar'.size = grammar.size := (List.Forall₂.length_eq hgrammar).symm
  have hcontains : grammar'.contains { handle with owner } = grammar.contains handle := by
    rw [Bool.eq_iff_iff, contains_iff, contains_iff, hsize, howner]
    exact Iff.rfl
  unfold body?
  rw [hcontains]
  by_cases hown : grammar.contains handle = true
  · obtain ⟨-, hlt⟩ := contains_iff.1 hown
    have hlt' : handle.index < grammar'.size := hsize ▸ hlt
    have hrules := List.Forall₂.get hgrammar hlt hlt'
    rw [if_pos hown, if_pos hown, List.getElem?_eq_getElem hlt]
    have hrule' : grammar'.rules[({ handle with owner } : Rule).index]? =
        some (grammar'.rules.get ⟨handle.index, hlt'⟩) := List.getElem?_eq_getElem hlt'
    rw [hrule']
    simp only [List.get_eq_getElem] at hrules ⊢
    generalize grammar.rules[handle.index] = rule at hrules ⊢
    generalize grammar'.rules[handle.index] = rule' at hrules ⊢
    obtain ⟨name, output, hbodies⟩ := hrules
    by_cases houtput : output = handle.output
    · subst houtput
      exact Or.inr ⟨_, _, Erased.downcast?_eq_some_iff.2 rfl, Erased.downcast?_eq_some_iff.2 rfl,
        hbodies⟩
    · refine Or.inl ⟨?_, ?_⟩
      · exact dif_neg houtput
      · exact dif_neg houtput
  · rw [if_neg hown, if_neg hown]
    exact Or.inl ⟨rfl, rfl⟩

theorem Unfolds.isLibrary (hgrammar : grammar.Unfolds grammar') :
    grammar.IsLibrary ∧ grammar'.IsLibrary := by
  have hlibrary : List.Forall₂ (fun rule rule' : BoundRule (RuleBody ρ) =>
      rule.erased.body.IsLibrary ∧ rule'.erased.body.IsLibrary) grammar.rules grammar'.rules := by
    refine List.Forall₂.imp ?_ hgrammar
    rintro _ _ ⟨_, _, hbodies⟩
    exact hbodies.isLibrary
  have hlibrary' := hlibrary.flip.imp fun _ _ => And.symm
  exact ⟨((List.forall₂_and_left _ _).1 hlibrary).1, ((List.forall₂_and_left _ _).1 hlibrary').1⟩

end Grammar

namespace Setting.Unfolds

variable {ρ : Nat → Type} {first second : Setting ρ} (hsetting : first.Unfolds second)

include hsetting

theorem withoutSkip : first.withoutSkip.Unfolds second.withoutSkip :=
  ⟨hsetting.tokens, hsetting.finish, hsetting.grammar, .none⟩

theorem skip_cases :
    first.skip? = none ∧ second.skip? = none ∨
      ∃ skip skip', first.skip? = some skip ∧ second.skip? = some skip' ∧
        Parser.Unfolds first.grammar second.grammar skip skip' := by
  have hskip := hsetting.skip
  generalize first.skip? = skip? at hskip ⊢
  generalize second.skip? = skip'? at hskip ⊢
  cases hskip with
  | none => exact Or.inl ⟨rfl, rfl⟩
  | some hunfolds => exact Or.inr ⟨_, _, rfl, rfl, hunfolds⟩

theorem isLibrary : first.IsLibrary ∧ second.IsLibrary := by
  obtain ⟨hfirst, hsecond⟩ := hsetting.grammar.isLibrary
  rcases hsetting.skip_cases with ⟨hnone, hnone'⟩ | ⟨skip, skip', hsome, hsome', hunfolds⟩
  · refine ⟨⟨hfirst, fun _ hskip => ?_⟩, ⟨hsecond, fun _ hskip => ?_⟩⟩
    · exact absurd (hnone.symm.trans hskip) nofun
    · exact absurd (hnone'.symm.trans hskip) nofun
  · obtain ⟨hlibrary, hlibrary'⟩ := hunfolds.isLibrary
    exact ⟨⟨hfirst, fun _ hskip => hlibrary.of_some_eq (hsome.symm.trans hskip)⟩,
      ⟨hsecond, fun _ hskip => hlibrary'.of_some_eq (hsome'.symm.trans hskip)⟩⟩

end Setting.Unfolds

/-! ### Runs that keep up -/

theorem Parser.run_rule_of_some {ρ : Nat → Type} {setting : Setting ρ} {handle : Rule}
    {body : Parser ρ (ρ handle.output)} (hbody : setting.grammar.body? handle = some body)
    (fuel cursor : Nat) :
    (Parser.rule handle).run (fuel + 1) setting cursor =
      enter handle.name cursor (body.run fuel setting cursor) := by
  rw [run_rule, hbody]

namespace Correspondence

/-- Two runs of which only cursors and furthest refusals are compared, not the rules entered. -/
def quiet : Correspondence where
  cursor := Eq
  progress p q := q.furthest = p.furthest
  enteredRule := fun _ _ hprogress => hprogress
  leftRule := fun _ _ _ hprogress => hprogress
  unknownRule := fun _ hprogress => hprogress

section Enter

variable {α : Type} {a b : Attempt α} {left right : Nat}

theorem Related.enter_left (name : String) (cursor : Nat) (h : quiet.Related left right a b) :
    quiet.Related left right (Parser.enter name cursor a) b := by
  intro p q hprogress
  have hagree := h (p.record (.enteredRule name cursor)) q hprogress
  unfold Parser.enter Attempt.after Attempt.resume
  generalize a _ = result at hagree ⊢
  generalize b q = result' at hagree ⊢
  cases hagree with
  | exhausted p result' => exact .exhausted p result'
  | failed hprogress => exact .failed hprogress
  | matched value hcursor hmove hprogress => exact .matched value hcursor hmove hprogress

theorem Related.enter_right (name : String) (cursor : Nat) (h : quiet.Related left right a b) :
    quiet.Related left right a (Parser.enter name cursor b) := by
  intro p q hprogress
  have hagree := h p (q.record (.enteredRule name cursor)) hprogress
  unfold Parser.enter Attempt.after Attempt.resume
  generalize a p = result at hagree ⊢
  generalize b _ = result' at hagree ⊢
  cases hagree with
  | exhausted p => exact .exhausted p _
  | failed hprogress => exact .failed hprogress
  | matched value hcursor hmove hprogress => exact .matched value hcursor hmove hprogress

end Enter

section KeepsUp

variable {ρ : Nat → Type} {α β γ : Type} {first second : Setting ρ} {fuel : Nat}

/-- With enough fuel the second parser answers what the first one does with this much. -/
def KeepsUp (first second : Setting ρ) (fuel : Nat) (a b : Parser ρ α) : Prop :=
  ∃ least, ∀ fuel', least ≤ fuel' → quiet.Aligned first second fuel fuel' a b

namespace KeepsUp

variable {a a' : Parser ρ α} {b b' : Parser ρ β} {c c' : Parser ρ γ}

theorem of_succ (least : Nat)
    (h : ∀ fuel', least ≤ fuel' → quiet.Aligned first second fuel (fuel' + 1) a a') :
    KeepsUp first second fuel a a' := by
  refine ⟨least + 1, fun fuel' hfuel' => ?_⟩
  obtain ⟨fuel', rfl⟩ : ∃ n, fuel' = n + 1 := ⟨fuel' - 1, by omega⟩
  exact h fuel' (by omega)

theorem step₁ (ha : KeepsUp first second fuel a a')
    (h : ∀ fuel', quiet.Aligned first second fuel fuel' a a' →
      quiet.Aligned first second (fuel + 1) (fuel' + 1) c c') :
    KeepsUp first second (fuel + 1) c c' := by
  obtain ⟨least, ha⟩ := ha
  exact of_succ least fun fuel' hfuel' => h fuel' (ha fuel' hfuel')

theorem step₂ (ha : KeepsUp first second fuel a a') (hb : KeepsUp first second fuel b b')
    (h : ∀ fuel', quiet.Aligned first second fuel fuel' a a' →
      quiet.Aligned first second fuel fuel' b b' →
        quiet.Aligned first second (fuel + 1) (fuel' + 1) c c') :
    KeepsUp first second (fuel + 1) c c' := by
  obtain ⟨least, ha⟩ := ha
  obtain ⟨least', hb⟩ := hb
  refine of_succ (max least least') fun fuel' hfuel' => ?_
  exact h fuel' (ha fuel' (by omega)) (hb fuel' (by omega))

section Enter

variable {handle : Rule} {body parser : Parser ρ (ρ handle.output)}

theorem enter_left (hbody : first.grammar.body? handle = some body)
    (h : KeepsUp first second fuel body parser) :
    KeepsUp first second (fuel + 1) (.rule handle) parser := by
  obtain ⟨least, h⟩ := h
  refine ⟨least, fun fuel' hfuel' left right hcursor => ?_⟩
  rw [Parser.run_rule_of_some hbody]
  exact (h fuel' hfuel' left right hcursor).enter_left handle.name left

theorem enter_right (hbody : second.grammar.body? handle = some body)
    (h : KeepsUp first second fuel parser body) :
    KeepsUp first second fuel parser (.rule handle) := by
  obtain ⟨least, h⟩ := h
  refine of_succ least fun fuel' hfuel' left right hcursor => ?_
  rw [Parser.run_rule_of_some hbody]
  exact (h fuel' hfuel' left right hcursor).enter_right handle.name right

end Enter

end KeepsUp

end KeepsUp

end Correspondence

namespace Parser

open Correspondence (KeepsUp)

variable {ρ : Nat → Type} {α : Type} {first second : Setting ρ}

section KeepsUp

variable (hgrammar : first.grammar.Unfolds second.grammar)
  (hprimitive : ∀ fuel {γ : Type} (wanted : Primitive γ),
    KeepsUp first second (fuel + 1) (.primitive wanted) (.primitive wanted) ∧
      KeepsUp second first (fuel + 1) (.primitive wanted) (.primitive wanted))

include hgrammar hprimitive

/-- **Both ways.** A parser and its unfolding keep up with each other. -/
theorem Unfolds.keepsUp (fuel : Nat) {parser parser' : Parser ρ α}
    (h : Unfolds first.grammar second.grammar parser parser') :
    KeepsUp first second fuel parser parser' ∧ KeepsUp second first fuel parser' parser := by
  induction fuel generalizing α parser parser' with
  | zero => exact ⟨⟨0, fun _ _ => .exhausted⟩, ⟨0, fun _ _ => .exhausted⟩⟩
  | succ fuel ih =>
    induction h with
    | primitive wanted => exact hprimitive fuel wanted
    | seq ha hb =>
      exact ⟨.step₂ (ih ha).1 (ih hb).1 fun _ => .seq, .step₂ (ih ha).2 (ih hb).2 fun _ => .seq⟩
    | thenIgnore ha hb =>
      exact ⟨.step₂ (ih ha).1 (ih hb).1 fun _ => .thenIgnore,
        .step₂ (ih ha).2 (ih hb).2 fun _ => .thenIgnore⟩
    | ignoreThen ha hb =>
      exact ⟨.step₂ (ih ha).1 (ih hb).1 fun _ => .ignoreThen,
        .step₂ (ih ha).2 (ih hb).2 fun _ => .ignoreThen⟩
    | alt ha hb =>
      exact ⟨.step₂ (ih ha).1 (ih hb).1 fun _ => .alt, .step₂ (ih ha).2 (ih hb).2 fun _ => .alt⟩
    | either ha hb =>
      exact ⟨.step₂ (ih ha).1 (ih hb).1 fun _ => .either,
        .step₂ (ih ha).2 (ih hb).2 fun _ => .either⟩
    | many ha =>
      exact ⟨.step₂ (ih ha).1 (ih ha.many).1 fun _ => .many,
        .step₂ (ih ha).2 (ih ha.many).2 fun _ => .many⟩
    | many1 ha =>
      exact ⟨.step₁ (ih ha.many).1 fun _ => .many1, .step₁ (ih ha.many).2 fun _ => .many1⟩
    | exclude ha hb =>
      exact ⟨.step₂ (ih ha).1 (ih hb).1 fun _ => .exclude,
        .step₂ (ih ha).2 (ih hb).2 fun _ => .exclude⟩
    | discard ha => exact ⟨.step₁ (ih ha).1 fun _ => .discard, .step₁ (ih ha).2 fun _ => .discard⟩
    | optional ha =>
      exact ⟨.step₁ (ih ha).1 fun _ => .optional, .step₁ (ih ha).2 fun _ => .optional⟩
    | map f ha => exact ⟨.step₁ (ih ha).1 fun _ h => .map h f, .step₁ (ih ha).2 fun _ h => .map h f⟩
    | rule howner =>
      rcases hgrammar.body_cases howner with ⟨hnone, hnone'⟩ | ⟨body, body', hbody, hbody', hbodies⟩
      · exact ⟨.of_succ 0 fun _ _ => .unknownRule hnone hnone',
          .of_succ 0 fun _ _ => .unknownRule hnone' hnone⟩
      · exact ⟨.step₁ (ih hbodies).1 fun _ => .rule hbody hbody',
          .step₁ (ih hbodies).2 fun _ => .rule hbody' hbody⟩
    | body hbody hunfolds ihbody =>
      exact ⟨(ih hunfolds).1.enter_left hbody, ihbody.2.enter_right hbody⟩

end KeepsUp

theorem take_quiet (htokens : second.tokens = first.tokens) (hfinish : second.finish = first.finish)
    (wanted : Primitive α) (cursor : Nat) :
    Correspondence.quiet.Related cursor cursor (take first wanted cursor)
      (take second wanted cursor) := by
  have htake : take second wanted cursor = take first wanted cursor := by
    simp only [take, Setting.tokenAt, htokens, hfinish]
  rw [htake]
  apply take_related
  · intro _
    rfl
  · intro p q hprogress
    exact congrArg (max · cursor) hprogress
  · intro event p q hprogress
    exact hprogress

theorem keepsUp_primitive {fuel : Nat} (htokens : second.tokens = first.tokens)
    (hfinish : second.finish = first.finish)
    (hskip : Option.Rel (KeepsUp first.withoutSkip second.withoutSkip fuel) first.skip?
      second.skip?) (wanted : Primitive α) :
    KeepsUp first second (fuel + 1) (.primitive wanted) (.primitive wanted) := by
  -- Skipping is a chain of attempts, and a chain needs as many rounds as the first run has.
  have hskipped : ∃ least, ∀ fuel', least ≤ fuel' → ∀ cursor, Correspondence.quiet.Related cursor
      cursor (skipFrom fuel first cursor) (skipFrom fuel' second cursor) := by
    generalize hsome : first.skip? = skip? at hskip
    generalize hsome' : second.skip? = skip'? at hskip
    cases hskip with
    | none =>
      refine ⟨0, fun fuel' _ cursor => ?_⟩
      rw [skipFrom_of_none hsome, skipFrom_of_none hsome']
      exact .matched () rfl (.refl cursor cursor)
    | some hkeepsUp =>
      obtain ⟨least, haligned⟩ := hkeepsUp
      refine ⟨max least fuel, fun fuel' hfuel' cursor => ?_⟩
      rw [skipFrom_of_some hsome, skipFrom_of_some hsome']
      exact Correspondence.chain (haligned fuel' (by omega)) fuel fuel' rfl (Or.inl (by omega))
  obtain ⟨least, hskipped⟩ := hskipped
  refine .of_succ least fun fuel' hfuel' left right hcursor => ?_
  obtain rfl : left = right := hcursor
  rw [run_primitive, run_primitive]
  refine (hskipped fuel' hfuel' left).andThen fun _ left' right' hcursor' hmove => ?_
  obtain rfl : left' = right' := hcursor'
  exact .of_move hmove (take_quiet htokens hfinish wanted left')

theorem keepsUp_of_setting (hsetting : first.Unfolds second) (fuel : Nat)
    {parser parser' : Parser ρ α} (h : Unfolds first.grammar second.grammar parser parser') :
    KeepsUp first second fuel parser parser' ∧ KeepsUp second first fuel parser' parser := by
  have hwithout := hsetting.withoutSkip
  refine Unfolds.keepsUp hsetting.grammar (fun fuel _ wanted => ?_) fuel h
  rcases hsetting.skip_cases with ⟨hnone, hnone'⟩ | ⟨skip, skip', hsome, hsome', hunfolds⟩
  · constructor
    · refine keepsUp_primitive hsetting.tokens hsetting.finish ?_ wanted
      rw [hnone, hnone']
      exact .none
    · refine keepsUp_primitive hsetting.tokens.symm hsetting.finish.symm ?_ wanted
      rw [hnone, hnone']
      exact .none
  · obtain ⟨hforth, hback⟩ := Unfolds.keepsUp hwithout.grammar (fun fuel _ wanted =>
      ⟨keepsUp_primitive hwithout.tokens hwithout.finish .none wanted,
        keepsUp_primitive hwithout.tokens.symm hwithout.finish.symm .none wanted⟩) fuel hunfolds
    constructor
    · refine keepsUp_primitive hsetting.tokens hsetting.finish ?_ wanted
      rw [hsome, hsome']
      exact .some hforth
    · refine keepsUp_primitive hsetting.tokens.symm hsetting.finish.symm ?_ wanted
      rw [hsome, hsome']
      exact .some hback

/-- What a parser answers, another one answers that keeps up with it. -/
theorem Answers.of_keepsUp {parser parser' : Parser ρ α} {cursor reach : Nat} {outcome : Outcome α}
    (hanswers : parser.Answers first cursor outcome reach) (hne : outcome ≠ .exhausted)
    (hkeepsUp : ∀ fuel, KeepsUp first second fuel parser parser') :
    parser'.Answers second cursor outcome reach := by
  obtain ⟨fuel, hgives⟩ := hanswers
  obtain ⟨least, haligned⟩ := hkeepsUp fuel
  refine ⟨least, fun fuel' hfuel' progress => ?_⟩
  obtain ⟨after, hrun, hfurthest⟩ := (hgives fuel (Nat.le_refl fuel)).exists_progress progress
  have hagree := haligned fuel' hfuel' cursor cursor rfl progress progress rfl
  rw [hrun] at hagree
  generalize parser'.run fuel' second cursor progress = result at hagree ⊢
  cases hagree with
  | exhausted => exact absurd rfl hne
  | failed hprogress => exact ⟨rfl, hprogress.trans hfurthest⟩
  | matched value hcursor hmove hprogress =>
    obtain rfl : _ = _ := hcursor
    exact ⟨rfl, hprogress.trans hfurthest⟩

end Parser

namespace Session

variable {ρ : Nat → Type} {α : Type}

/-- **Rules are transparent.** Let the bodies of a grammar, a parser and a skip parser mention
rules, or have bodies in their place. From every start and up to every end bound the parser halts in
one form if and only if it halts in the other, and then both give the same value, cursor and
furthest position. -/
theorem run_unfolded (grammar grammar' : Grammar (RuleBody ρ)) (parser parser' : Parser ρ α)
    (skip? skip'? : Option (Parser ρ Unit)) (hgrammar : grammar.Unfolds grammar')
    (hparser : parser.Unfolds grammar grammar' parser')
    (hskip : Option.Rel (Parser.Unfolds grammar grammar') skip? skip'?) (tokens : TokenSequence)
    (start finish : Nat) :
    (parser.Halts (Setting.new tokens finish grammar skip?) start ↔
      parser'.Halts (Setting.new tokens finish grammar' skip'?) start) ∧
    (parser.Halts (Setting.new tokens finish grammar skip?) start →
      (run ⟨grammar, tokens⟩ parser start finish skip?).value =
        (run ⟨grammar', tokens⟩ parser' start finish skip'?).value) := by
  set first := Setting.new tokens finish grammar skip?
  set second := Setting.new tokens finish grammar' skip'?
  have hsetting : first.Unfolds second := ⟨rfl, rfl, hgrammar, hskip⟩
  have hkeepsUp := fun fuel => Parser.keepsUp_of_setting hsetting fuel hparser
  obtain ⟨hfirst, hsecond⟩ := hsetting.isLibrary
  obtain ⟨hlibrary, hlibrary'⟩ := hparser.isLibrary
  refine ⟨⟨fun hhalts => ?_, fun hhalts => ?_⟩, fun hhalts => ?_⟩
  · obtain ⟨outcome, reach, hne, hanswers⟩ := hhalts.answers hfirst hlibrary
    exact (hanswers.of_keepsUp hne fun fuel => (hkeepsUp fuel).1).halts hne
  · obtain ⟨outcome, reach, hne, hanswers⟩ := hhalts.answers hsecond hlibrary'
    exact (hanswers.of_keepsUp hne fun fuel => (hkeepsUp fuel).2).halts hne
  · obtain ⟨outcome, reach, hne, hanswers⟩ := hhalts.answers hfirst hlibrary
    have hanswers' := hanswers.of_keepsUp hne fun fuel => (hkeepsUp fuel).1
    calc (run ⟨grammar, tokens⟩ parser start finish skip?).value
        = Match.ofOutcome start (outcome, ⟨max start reach, []⟩) :=
          run_value_of_answers hfirst.grammar hlibrary hfirst.skip hanswers hne
      _ = (run ⟨grammar', tokens⟩ parser' start finish skip'?).value :=
          (run_value_of_answers hsecond.grammar hlibrary' hsecond.skip hanswers' hne).symm

/-- Words of letters. In the second grammar the first letter of a word is spelled out, and so is the
rest of the word, up to where the word would go on. -/
theorem run_unfolded_words :
    let letter : Kind String := ⟨0, "letter", some⟩
    let blank : Kind String := ⟨1, "blank", some⟩
    let join : String × Option String → String := fun (first, rest?) => first ++ rest?.getD ""
    let letterAnd := fun (first rest : Parser String String) =>
      Parser.map join (.seq first (.optional rest))
    let word : Parser String String := .rule ⟨1, 0, "word", 0⟩
    let oneLetter : Parser String String := .rule ⟨1, 1, "letter", 0⟩
    let grammar : Grammar (RuleBody String) := ⟨1, [⟨"word", 0, letterAnd oneLetter word⟩,
      ⟨"letter", 0, .token letter⟩, ⟨"gap", 0, .token blank⟩]⟩
    let grammar' : Grammar (RuleBody String) := ⟨1,
      [⟨"word", 0, letterAnd (.token letter) (letterAnd oneLetter word)⟩,
        ⟨"letter", 0, .token letter⟩, ⟨"gap", 0, .token blank⟩]⟩
    let tokens : TokenSequence := ⟨#[⟨0, "letter", "a", .ofOffsets 0 1⟩,
      ⟨1, "blank", " ", .ofOffsets 1 2⟩, ⟨0, "letter", "b", .ofOffsets 2 3⟩,
      ⟨2, "digit", "7", .ofOffsets 3 4⟩], 4⟩
    let skip : Parser String Unit := .discard (.rule ⟨1, 2, "gap", 0⟩)
    word.Halts (Setting.new tokens 4 grammar (some skip)) 0 ∧
      (letterAnd oneLetter word).Halts (Setting.new tokens 4 grammar' (some skip)) 0 ∧
      (run ⟨grammar, tokens⟩ word 0 4 (some skip)).value = ⟨some "ab", 3, 3⟩ ∧
      (run ⟨grammar', tokens⟩ (letterAnd oneLetter word) 0 4 (some skip)).value =
        ⟨some "ab", 3, 3⟩ := by
  intro letter blank join letterAnd word oneLetter grammar grammar' tokens skip
  have howner : grammar'.owner = grammar.owner := rfl
  have hself : ∀ {γ : Type} {parser : Parser String γ}, parser.IsLibrary →
      Parser.Unfolds grammar grammar' parser parser := Parser.IsLibrary.unfolds_self howner
  have hbody : (letterAnd oneLetter word).IsLibrary := ⟨trivial, trivial⟩
  have hword : Parser.Unfolds grammar grammar' word (letterAnd oneLetter word) :=
    .body rfl (hself hbody)
  have hletter : Parser.Unfolds grammar grammar' oneLetter (.token letter) :=
    .body rfl (hself trivial)
  have hgrammar : grammar.Unfolds grammar' := by
    refine .cons ⟨"word", 0, ?_⟩
      (.cons ⟨"letter", 0, hself trivial⟩ (.cons ⟨"gap", 0, hself trivial⟩ .nil))
    exact .map join (.seq hletter (.optional hword))
  obtain ⟨hiff, hvalue⟩ := run_unfolded grammar grammar' word (letterAnd oneLetter word) (some skip)
    (some skip) hgrammar hword (.some (hself trivial)) tokens 0 4
  have hhalts : word.Halts (Setting.new tokens 4 grammar (some skip)) 0 := ⟨20, by decide⟩
  have hrun : (run ⟨grammar, tokens⟩ word 0 4 (some skip)).value = ⟨some "ab", 3, 3⟩ := by rfl
  exact ⟨hhalts, hiff.1 hhalts, hrun, (hvalue hhalts).symm.trans hrun⟩

end Session

end TokenGrammar
