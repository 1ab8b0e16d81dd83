import Mathlib.Data.Finset.Card
import Mathlib.Order.Interval.Finset.Nat
import Mathlib.Order.Lattice.Nat
import Mathlib.Tactic.Linarith
import TokenGrammar.Proofs.Parser.Fuel

/-!
# The allowance of a session is enough

A session gives a run a fixed allowance of fuel. This module shows that the allowance never decides
an answer: a library parser that has an answer with any amount of fuel has it with the allowance.

The least fuel that a parser needs at a cursor is its depth there. A parser of depth `d + 1` either
calls a parser of depth `d`, or only needs its fuel to pass over tokens. So all depths below that of
a run, down to the number of cursors, belong to parts of the parsers at hand, tried at some cursor
with or without skipping, and there are only so many of those.
-/

namespace TokenGrammar

namespace Parser

variable {ρ : Nat → Type}

/-! ### Parts -/

def parts : {α : Type} → Parser ρ α → List (Σ α : Type, Parser ρ α)
  | _, primitive wanted => [⟨_, primitive wanted⟩]
  | _, seq first second => ⟨_, seq first second⟩ :: (first.parts ++ second.parts)
  | _, thenIgnore first second => ⟨_, thenIgnore first second⟩ :: (first.parts ++ second.parts)
  | _, ignoreThen first second => ⟨_, ignoreThen first second⟩ :: (first.parts ++ second.parts)
  | _, alt first second => ⟨_, alt first second⟩ :: (first.parts ++ second.parts)
  | _, either first second => ⟨_, either first second⟩ :: (first.parts ++ second.parts)
  | _, many item => ⟨_, many item⟩ :: item.parts
  | _, many1 item => ⟨_, many1 item⟩ :: ⟨_, many item⟩ :: item.parts
  | _, exclude inner excluded => ⟨_, exclude inner excluded⟩ :: (inner.parts ++ excluded.parts)
  | _, discard inner => ⟨_, discard inner⟩ :: inner.parts
  | _, optional inner => ⟨_, optional inner⟩ :: inner.parts
  | _, map f inner => ⟨_, map f inner⟩ :: inner.parts
  | _, rule handle => [⟨_, rule handle⟩]
  | _, unskipped inner => ⟨_, unskipped inner⟩ :: inner.parts
  | _, custom act => [⟨_, custom act⟩]

theorem length_parts {α : Type} (parser : Parser ρ α) : parser.parts.length = parser.size := by
  induction parser <;> simp_all [parts, size]

theorem mem_parts_self {α : Type} (parser : Parser ρ α) : ⟨α, parser⟩ ∈ parser.parts := by
  cases parser <;> simp [parts]

theorem mem_parts_cases {α : Type} {parser : Parser ρ α} {part : Σ α : Type, Parser ρ α}
    (hpart : part ∈ parser.parts) :
    part.2.parts ⊆ parser.parts ∧
      (parser.IsLibrary → part.2.IsLibrary) := by
  induction parser with
  | primitive _ | rule _ | custom _ =>
    obtain rfl := List.mem_singleton.1 hpart
    exact ⟨List.Subset.refl _, id⟩
  | unskipped _ ih =>
    rcases List.mem_cons.1 hpart with rfl | hmem
    · exact ⟨List.Subset.refl _, id⟩
    · exact ⟨List.Subset.trans (ih hmem).1 (List.subset_cons_self _ _), False.elim⟩
  | many _ ih | discard _ ih | optional _ ih | map _ _ ih =>
    rcases List.mem_cons.1 hpart with rfl | hmem
    · exact ⟨List.Subset.refl _, id⟩
    · exact ⟨List.Subset.trans (ih hmem).1 (List.subset_cons_self _ _), (ih hmem).2⟩
  | many1 item ih =>
    rcases List.mem_cons.1 hpart with rfl | hmem
    · exact ⟨List.Subset.refl _, id⟩
    · refine ⟨List.Subset.trans ?_ (List.subset_cons_self _ _), ?_⟩
      · rcases List.mem_cons.1 hmem with rfl | hmem
        · exact List.Subset.refl _
        · exact List.Subset.trans (ih hmem).1 (List.subset_cons_self _ _)
      · rcases List.mem_cons.1 hmem with rfl | hmem
        · exact id
        · exact (ih hmem).2
  | seq _ _ ihFirst ihSecond | thenIgnore _ _ ihFirst ihSecond | ignoreThen _ _ ihFirst ihSecond
  | alt _ _ ihFirst ihSecond | either _ _ ihFirst ihSecond | exclude _ _ ihFirst ihSecond =>
    rcases List.mem_cons.1 hpart with rfl | hmem
    · exact ⟨List.Subset.refl _, id⟩
    · rcases List.mem_append.1 hmem with hfirst | hsecond
      · exact ⟨List.Subset.trans (ihFirst hfirst).1
          (List.Subset.trans (List.subset_append_left _ _) (List.subset_cons_self _ _)),
          fun hparser => (ihFirst hfirst).2 hparser.1⟩
      · exact ⟨List.Subset.trans (ihSecond hsecond).1
          (List.Subset.trans (List.subset_append_right _ _) (List.subset_cons_self _ _)),
          fun hparser => (ihSecond hsecond).2 hparser.2⟩

theorem Calls.mem_parts {grammar : Grammar (RuleBody ρ)} {α β : Type} {parser : Parser ρ α}
    {called : Parser ρ β} (hcalls : Calls grammar parser called) :
    ⟨β, called⟩ ∈ parser.parts ∨ ∃ rule ∈ grammar.rules, ⟨β, called⟩ ∈ rule.erased.body.parts := by
  cases hcalls with
  | rule hbody =>
    obtain ⟨rule, hmem, herased⟩ := Grammar.exists_mem_rules_of_body? hbody
    refine Or.inr ⟨rule, hmem, ?_⟩
    rw [herased]
    exact mem_parts_self _
  | _ => left; simp [parts, mem_parts_self]

/-! ### Depths -/

variable {α : Type}

/-- The parser has an answer at the cursor, given enough fuel. -/
def Halts (setting : Setting ρ) (parser : Parser ρ α) (cursor : Nat) : Prop :=
  ∃ fuel, (parser.run fuel setting cursor ⟨0, []⟩).1 ≠ .exhausted

/-- The least fuel with which the parser has an answer at the cursor. -/
noncomputable def depth (setting : Setting ρ) (parser : Parser ρ α) (cursor : Nat) : Nat :=
  sInf {fuel | (parser.run fuel setting cursor ⟨0, []⟩).1 ≠ .exhausted}

section Depth

variable {setting : Setting ρ} {parser : Parser ρ α} {cursor fuel : Nat}

theorem run_depth_ne_exhausted (hhalts : parser.Halts setting cursor) :
    (parser.run (parser.depth setting cursor) setting cursor ⟨0, []⟩).1 ≠ .exhausted :=
  Nat.sInf_mem hhalts

theorem depth_le (hanswer : (parser.run fuel setting cursor ⟨0, []⟩).1 ≠ .exhausted) :
    parser.depth setting cursor ≤ fuel :=
  Nat.sInf_le hanswer

theorem run_eq_of_depth_le (hsetting : setting.IsLibrary)
    (hparser : parser.IsLibrary) (hhalts : parser.Halts setting cursor) {fuel' : Nat}
    (hfuel : parser.depth setting cursor ≤ fuel) (hfuel' : parser.depth setting cursor ≤ fuel')
    (progress : Progress) :
    parser.run fuel setting cursor progress = parser.run fuel' setting cursor progress := by
  have hanswer : (parser.run (parser.depth setting cursor) setting cursor progress).1
      ≠ .exhausted := by
    rw [run_outcome_eq hsetting hparser _ _ progress ⟨0, []⟩]
    exact run_depth_ne_exhausted hhalts
  rw [run_eq_of_le hsetting hparser hfuel hanswer, run_eq_of_le hsetting hparser hfuel' hanswer]

theorem run_ne_exhausted_of_depth_le (hsetting : setting.IsLibrary)
    (hparser : parser.IsLibrary) (hhalts : parser.Halts setting cursor)
    (hfuel : parser.depth setting cursor ≤ fuel) (progress : Progress) :
    (parser.run fuel setting cursor progress).1 ≠ .exhausted := by
  rw [run_eq_of_depth_le hsetting hparser hhalts hfuel le_rfl,
    run_outcome_eq hsetting hparser _ _ progress ⟨0, []⟩]
  exact run_depth_ne_exhausted hhalts

/-- A run that has an answer agrees with every run that has the depth of the parser as its fuel. -/
theorem related_of_depth_le (hsetting : setting.IsLibrary) (hparser : parser.IsLibrary)
    {start limit fuel' : Nat} (hfinish : setting.finish ≤ limit) (hstart : start ≤ cursor)
    (hlimit : cursor ≤ limit)
    (hdepth : (parser.run fuel setting cursor ⟨0, []⟩).1 ≠ .exhausted →
      parser.depth setting cursor ≤ fuel') :
    (Correspondence.within start limit).Related cursor cursor (parser.run fuel setting cursor)
      (parser.run fuel' setting cursor) := by
  rintro p q rfl
  generalize hresult : parser.run fuel setting cursor p = result
  obtain ⟨outcome, progress⟩ := result
  by_cases hanswer : outcome = .exhausted
  · rw [hanswer]
    exact .exhausted progress _
  · have hne : (parser.run fuel setting cursor ⟨0, []⟩).1 ≠ .exhausted := by
      rwa [run_outcome_eq hsetting hparser _ _ _ p, hresult]
    rw [← hresult, run_eq_of_depth_le hsetting hparser ⟨fuel, hne⟩ (depth_le hne) (hdepth hne)]
    exact run_add_related hsetting hparser hfinish fuel' 0 hstart hlimit p p rfl

end Depth

/-! ### Counting -/

/-- A list of library parsers that has all that they call and skip. -/
structure Closed (setting : Setting ρ)
    (repertoire : List (Σ α : Type, Parser ρ α)) : Prop where
  library : setting.IsLibrary
  isLibrary : ∀ part ∈ repertoire, part.2.IsLibrary
  calls : ∀ {α β : Type} {parser : Parser ρ α} {called : Parser ρ β},
    ⟨α, parser⟩ ∈ repertoire → Calls setting.grammar parser called → ⟨β, called⟩ ∈ repertoire
  skip : ∀ skip, setting.skip? = some skip → ⟨Unit, skip⟩ ∈ repertoire

def withSkipping (setting : Setting ρ) : Bool → Setting ρ
  | true => setting
  | false => setting.withoutSkip

structure Stage (ρ : Nat → Type) where
  skipping : Bool
  part : Σ α : Type, Parser ρ α
  cursor : Nat

namespace Stage

def all (repertoire : List (Σ α : Type, Parser ρ α)) (start limit : Nat) : List (Stage ρ) :=
  [true, false].flatMap fun skipping =>
    repertoire.flatMap fun part =>
      (List.range' start (limit + 1 - start)).map fun cursor => ⟨skipping, part, cursor⟩

theorem length_all (repertoire : List (Σ α : Type, Parser ρ α)) (start limit : Nat) :
    (all repertoire start limit).length = 2 * (repertoire.length * (limit + 1 - start)) := by
  simp [all, List.length_flatMap, two_mul]

theorem mem_all {repertoire : List (Σ α : Type, Parser ρ α)} {start limit : Nat}
    {stage : Stage ρ} (hpart : stage.part ∈ repertoire) (hstart : start ≤ stage.cursor)
    (hlimit : stage.cursor ≤ limit) : stage ∈ all repertoire start limit := by
  obtain ⟨skipping, part, cursor⟩ := stage
  have hcursor : cursor ∈ List.range' start (limit + 1 - start) := by
    rw [List.mem_range'_1]
    simp only at hstart hlimit
    omega
  simp only [all, List.mem_flatMap]
  exact ⟨skipping, by cases skipping <;> simp, part, hpart, List.mem_map.2 ⟨cursor, hcursor, rfl⟩⟩

def Halts (setting : Setting ρ) (stage : Stage ρ) : Prop :=
  stage.part.2.Halts (withSkipping setting stage.skipping) stage.cursor

noncomputable def depth (setting : Setting ρ) (stage : Stage ρ) : Nat :=
  stage.part.2.depth (withSkipping setting stage.skipping) stage.cursor

end Stage

section Count

variable {setting : Setting ρ}
  {repertoire : List (Σ α : Type, Parser ρ α)} {start limit fuel : Nat}

theorem Closed.withSkipping (hclosed : Closed setting repertoire) (skipping : Bool) :
    (withSkipping setting skipping).IsLibrary := by
  cases skipping with
  | true => exact hclosed.library
  | false => exact hclosed.library.withoutSkip

/-- If no stage has exactly the depth `fuel + 1`, one unit of fuel more than `fuel` changes nothing
in any part. -/
theorem related_of_depth_ne (hclosed : Closed setting repertoire)
    (hfinish : setting.finish ≤ limit)
    (hdepth : ∀ stage : Stage ρ, stage.part ∈ repertoire → start ≤ stage.cursor →
      stage.cursor ≤ limit → stage.Halts setting → stage.depth setting ≠ fuel + 1)
    (skipping : Bool) {α : Type} {parser : Parser ρ α} (hparser : ⟨α, parser⟩ ∈ repertoire)
    {cursor : Nat} (hstart : start ≤ cursor) (hlimit : cursor ≤ limit) :
    (Correspondence.within start limit).Related cursor cursor
      (parser.run (fuel + 1) (withSkipping setting skipping) cursor)
      (parser.run fuel (withSkipping setting skipping) cursor) := by
  have hbound : (withSkipping setting skipping).finish ≤ limit := by
    cases skipping <;> exact hfinish
  refine related_of_depth_le (hclosed.withSkipping skipping) (hclosed.isLibrary _ hparser) hbound
    hstart hlimit fun hanswer => ?_
  have hne := hdepth ⟨skipping, ⟨α, parser⟩, cursor⟩ hparser hstart hlimit ⟨_, hanswer⟩
  exact Nat.le_of_lt_succ (lt_of_le_of_ne (depth_le hanswer) hne)

theorem related_skipFrom (hclosed : Closed setting repertoire)
    (hfinish : setting.finish ≤ limit) (hfuel : limit < start + fuel)
    (hdepth : ∀ stage : Stage ρ, stage.part ∈ repertoire → start ≤ stage.cursor →
      stage.cursor ≤ limit → stage.Halts setting → stage.depth setting ≠ fuel + 1)
    (skipping : Bool) {cursor : Nat} (hstart : start ≤ cursor) (hlimit : cursor ≤ limit) :
    (Correspondence.within start limit).Related cursor cursor
      (skipFrom (fuel + 1) (withSkipping setting skipping) cursor)
      (skipFrom fuel (withSkipping setting skipping) cursor) := by
  cases hskip : (withSkipping setting skipping).skip? with
  | none =>
    rw [skipFrom_of_none hskip, skipFrom_of_none hskip]
    exact .matched () ⟨rfl, hstart, hlimit⟩ (.refl cursor cursor)
  | some skip =>
    obtain rfl : skipping = true := by
      cases skipping with
      | true => rfl
      | false => cases hskip
    rw [skipFrom_of_some hskip, skipFrom_of_some hskip]
    refine Correspondence.chain ?_ (fuel + 1) fuel ⟨rfl, hstart, hlimit⟩ (Or.inr ⟨limit, ?_, ?_⟩)
    · rintro left right ⟨rfl, hstart, hlimit⟩
      exact related_of_depth_ne hclosed hfinish hdepth false (hclosed.skip skip hskip) hstart hlimit
    · rintro left right ⟨rfl, -, hlimit⟩
      exact hlimit
    · omega

/-- **One step down.** Above the number of cursors, a stage of depth `fuel + 2` goes through one of
depth `fuel + 1`. -/
theorem exists_depth_eq (hclosed : Closed setting repertoire)
    (hfinish : setting.finish ≤ limit) (hfuel : limit < start + fuel) {stage : Stage ρ}
    (hpart : stage.part ∈ repertoire) (hstart : start ≤ stage.cursor)
    (hlimit : stage.cursor ≤ limit) (hhalts : stage.Halts setting)
    (hdepth : stage.depth setting = fuel + 2) :
    ∃ stage : Stage ρ, stage.part ∈ repertoire ∧ start ≤ stage.cursor ∧ stage.cursor ≤ limit ∧
      stage.Halts setting ∧ stage.depth setting = fuel + 1 := by
  by_contra! hnone
  obtain ⟨skipping, ⟨α, parser⟩, cursor⟩ := stage
  have hrelated : (Correspondence.within start limit).Related cursor cursor
      (parser.run (fuel + 1 + 1) (withSkipping setting skipping) cursor)
      (parser.run (fuel + 1) (withSkipping setting skipping) cursor) := by
    refine Correspondence.run_succ (hclosed.isLibrary _ hpart) rfl ?_ ?_ ⟨rfl, hstart, hlimit⟩
    · rintro γ wanted left right ⟨rfl, hstart, hlimit⟩
      rw [run_primitive, run_primitive]
      refine (related_skipFrom hclosed hfinish hfuel hnone skipping hstart hlimit).andThen ?_
      rintro - left' right' ⟨rfl, hstart', hlimit'⟩ hmove
      refine .of_move hmove (take_related ?_ ?_ ?_ wanted)
      · intro hlt
        have hle : left' + 1 ≤ limit := by cases skipping <;> exact Nat.le_trans hlt hfinish
        exact ⟨rfl, by omega, hle⟩
      · rintro p q rfl
        rfl
      · rintro event p q rfl
        rfl
    · rintro γ called hcalls left right ⟨rfl, hstart, hlimit⟩
      have hmem : ⟨γ, called⟩ ∈ repertoire := by
        cases skipping <;> exact hclosed.calls hpart hcalls
      exact related_of_depth_ne hclosed hfinish hnone skipping hmem hstart hlimit
  have hanswer : (parser.run (fuel + 2) (withSkipping setting skipping) cursor ⟨0, []⟩).1
      ≠ .exhausted :=
    run_ne_exhausted_of_depth_le (hclosed.withSkipping skipping) (hclosed.isLibrary _ hpart) hhalts
      (Nat.le_of_eq hdepth) ⟨0, []⟩
  have hle := depth_le ((hrelated ⟨0, []⟩ ⟨0, []⟩ rfl).ne_exhausted hanswer)
  have heq : parser.depth (withSkipping setting skipping) cursor = fuel + 2 := hdepth
  omega

theorem depth_le_of_halts (hclosed : Closed setting repertoire)
    (hfinish : setting.finish ≤ limit) {stage : Stage ρ} (hpart : stage.part ∈ repertoire)
    (hstart : start ≤ stage.cursor) (hlimit : stage.cursor ≤ limit)
    (hhalts : stage.Halts setting) :
    stage.depth setting ≤
      2 * (repertoire.length * (limit + 1 - start)) + (limit + 1 - start) + 1 := by
  set cursors := limit + 1 - start with hcursors
  -- Every number between the cursors and the depth is the depth of some stage.
  have hdown : ∀ drop, ∀ fuel, cursors ≤ fuel → fuel + 1 + drop = stage.depth setting →
      ∃ stage : Stage ρ, stage.part ∈ repertoire ∧ start ≤ stage.cursor ∧ stage.cursor ≤ limit ∧
        stage.Halts setting ∧ stage.depth setting = fuel + 1 := by
    intro drop
    induction drop with
    | zero =>
      intro fuel _ hfuel
      exact ⟨stage, hpart, hstart, hlimit, hhalts, by omega⟩
    | succ drop ih =>
      intro fuel hle hfuel
      obtain ⟨next, hpart, hstart, hlimit, hhalts, hdepth⟩ := ih (fuel + 1) (by omega) (by omega)
      exact exists_depth_eq hclosed hfinish (by omega) hpart hstart hlimit hhalts hdepth
  have hsubset : Finset.Ioc cursors (stage.depth setting) ⊆
      ((Stage.all repertoire start limit).map (Stage.depth setting)).toFinset := by
    intro depth hdepth
    rw [Finset.mem_Ioc] at hdepth
    obtain ⟨next, hpart, hstart, hlimit, -, hnext⟩ :=
      hdown (stage.depth setting - depth) (depth - 1) (by omega) (by omega)
    rw [List.mem_toFinset]
    exact List.mem_map.2 ⟨next, Stage.mem_all hpart hstart hlimit, by omega⟩
  have hcard : stage.depth setting - cursors ≤ (Stage.all repertoire start limit).length := by
    calc stage.depth setting - cursors
        = (Finset.Ioc cursors (stage.depth setting)).card := (Nat.card_Ioc _ _).symm
      _ ≤ ((Stage.all repertoire start limit).map (Stage.depth setting)).toFinset.card :=
          Finset.card_le_card hsubset
      _ ≤ ((Stage.all repertoire start limit).map (Stage.depth setting)).length :=
          List.toFinset_card_le _
      _ = (Stage.all repertoire start limit).length := List.length_map _
  rw [Stage.length_all, ← hcursors] at hcard
  omega

end Count

end Parser

/-! ### Sessions -/

namespace Session

variable {ρ : Nat → Type} {α : Type}

/-- All parsers that matching a parser in a session can come to. -/
def repertoire (session : Session ρ) (parser : Parser ρ α) (skip? : Option (Parser ρ Unit)) :
    List (Σ α : Type, Parser ρ α) :=
  parser.parts ++ (skip?.map Parser.parts).getD [] ++
    session.grammar.rules.flatMap fun rule => rule.erased.body.parts

theorem length_bodies (rules : List (BoundRule (RuleBody ρ))) :
    (rules.flatMap fun rule => rule.erased.body.parts).length =
      rules.foldr (fun rule total => rule.erased.body.size + total) 0 := by
  induction rules with
  | nil => rfl
  | cons rule rules ih =>
    rw [List.flatMap_cons, List.length_append, Parser.length_parts, ih, List.foldr_cons]

theorem length_repertoire (session : Session ρ) (parser : Parser ρ α)
    (skip? : Option (Parser ρ Unit)) :
    (session.repertoire parser skip?).length =
      parser.size + (skip?.map Parser.size).getD 0 +
        session.grammar.rules.foldr (fun rule total => rule.erased.body.size + total) 0 := by
  rw [repertoire, List.length_append, List.length_append, length_bodies, Parser.length_parts]
  cases skip? with
  | none => rfl
  | some skip => rw [Option.map_some, Option.map_some, Option.getD_some, Option.getD_some,
      Parser.length_parts]

section Allowance

variable {session : Session ρ} {parser : Parser ρ α}
  {skip? : Option (Parser ρ Unit)}

theorem closed_repertoire (hgrammar : session.grammar.IsLibrary)
    (hparser : parser.IsLibrary) (hskip : ∀ skip, skip? = some skip → skip.IsLibrary)
    (finish : Nat) :
    Parser.Closed (Setting.new session.tokens finish session.grammar skip?)
      (session.repertoire parser skip?) := by
  have hmem : ∀ part ∈ session.repertoire parser skip?, part ∈ parser.parts ∨
      (∃ skip, skip? = some skip ∧ part ∈ skip.parts) ∨
        ∃ rule ∈ session.grammar.rules, part ∈ rule.erased.body.parts := by
    intro part hpart
    cases skip? <;> simpa [repertoire, or_assoc] using hpart
  have hbodies : ∀ rule ∈ session.grammar.rules,
      rule.erased.body.parts ⊆ session.repertoire parser skip? := by
    intro rule hrule part hpart
    exact List.mem_append_right _ (List.mem_flatMap.2 ⟨rule, hrule, hpart⟩)
  have hskips : ∀ skip, skip? = some skip → skip.parts ⊆ session.repertoire parser skip? := by
    rintro skip rfl part hpart
    exact List.mem_append_left _ (List.mem_append_right _ hpart)
  have hparts : parser.parts ⊆ session.repertoire parser skip? :=
    fun part hpart => List.mem_append_left _ (List.mem_append_left _ hpart)
  refine ⟨⟨hgrammar, hskip⟩, ?_, ?_, ?_⟩
  · intro part hpart
    rcases hmem part hpart with hown | ⟨skip, hsome, hskipped⟩ | ⟨rule, hrule, hbody⟩
    · exact (Parser.mem_parts_cases hown).2 hparser
    · exact (Parser.mem_parts_cases hskipped).2 (hskip skip hsome)
    · exact (Parser.mem_parts_cases hbody).2 (hgrammar rule hrule)
  · intro β γ caller called hcaller hcalls
    rcases hcalls.mem_parts with hpart | ⟨rule, hrule, hbody⟩
    · rcases hmem _ hcaller with hown | ⟨skip, hsome, hskipped⟩ | ⟨rule, hrule, hbody⟩
      · exact hparts ((Parser.mem_parts_cases hown).1 hpart)
      · exact hskips skip hsome ((Parser.mem_parts_cases hskipped).1 hpart)
      · exact hbodies rule hrule ((Parser.mem_parts_cases hbody).1 hpart)
    · exact hbodies rule hrule hbody
  · intro skip hsome
    exact hskips skip hsome (Parser.mem_parts_self skip)

/-- The allowance counts every part at every cursor, with and without skipping, and more. -/
theorem stages_le_allowance {cursors : Nat} (hcursors : cursors ≤ session.tokens.size + 1) :
    2 * ((session.repertoire parser skip?).length * cursors) + cursors + 1 ≤
      session.allowance parser skip? := by
  have hparts := length_repertoire session parser skip?
  unfold allowance
  simp only [← hparts]
  generalize (session.repertoire parser skip?).length = parts
  generalize session.tokens.size = tokens at hcursors ⊢
  generalize session.grammar.size = rules
  have hproduct : parts * cursors ≤ parts * (tokens + 1) := Nat.mul_le_mul_left parts hcursors
  nlinarith [Nat.zero_le (rules * ((parts + 1) * (tokens + (parts + 1) + 2)))]

/-- **The allowance is enough.** A parser of the repertoire that has an answer at all has it within
the allowance. -/
theorem depth_le_allowance (hgrammar : session.grammar.IsLibrary)
    (hparser : parser.IsLibrary) (hskip : ∀ skip, skip? = some skip → skip.IsLibrary)
    (finish : Nat) {stage : Parser.Stage ρ} (hpart : stage.part ∈ session.repertoire parser skip?)
    (hhalts : stage.Halts (Setting.new session.tokens finish session.grammar skip?)) :
    stage.depth (Setting.new session.tokens finish session.grammar skip?) ≤
      session.allowance parser skip? := by
  set setting := Setting.new session.tokens finish session.grammar skip?
  have hfinish : setting.finish ≤ session.tokens.size := Nat.min_le_right _ _
  refine Nat.le_trans (Parser.depth_le_of_halts (closed_repertoire hgrammar hparser hskip finish)
    (Nat.le_max_right stage.cursor setting.finish) hpart (Nat.le_refl _) (Nat.le_max_left _ _)
    hhalts) (stages_le_allowance ?_)
  omega

theorem run_allowance_ne_exhausted (hgrammar : session.grammar.IsLibrary)
    (hparser : parser.IsLibrary) (hskip : ∀ skip, skip? = some skip → skip.IsLibrary)
    {start finish : Nat}
    (hhalts : parser.Halts (Setting.new session.tokens finish session.grammar skip?) start)
    (progress : Progress) :
    (parser.run (session.allowance parser skip?)
      (Setting.new session.tokens finish session.grammar skip?) start progress).1 ≠ .exhausted := by
  have hmem : ⟨α, parser⟩ ∈ session.repertoire parser skip? :=
    List.mem_append_left _ (List.mem_append_left _ (Parser.mem_parts_self parser))
  let stage : Parser.Stage ρ := ⟨true, ⟨α, parser⟩, start⟩
  have hle : stage.depth (Setting.new session.tokens finish session.grammar skip?) ≤
      session.allowance parser skip? :=
    depth_le_allowance hgrammar hparser hskip finish hmem hhalts
  exact Parser.run_ne_exhausted_of_depth_le ⟨hgrammar, hskip⟩ hparser hhalts hle progress

end Allowance

end Session

end TokenGrammar
