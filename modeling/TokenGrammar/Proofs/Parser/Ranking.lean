import Mathlib.Data.Finset.Lattice.Fold
import Mathlib.Data.Prod.Lex
import TokenGrammar.Proofs.Parser.Halting

/-!
# Grammars without left recursion

A rule is left recursive if it can be entered again before a token is consumed. A ranking rules this
out: rules that a body can enter where it starts rank below the rule of that body. Under a ranking
every attempt lowers a weight, so that all library parsers halt, at every cursor and with every skip
parser: first of all, skipping is left for good in the attempts of a skip parser; then there are
fewer tokens before the end bound; then the rules ahead rank lower; and at last the parser itself is
smaller.
-/

namespace TokenGrammar

namespace Parser

variable {ρ : Nat → Type}

/-- Whether every match takes a token, provided that the matches of the rules in `sure` do. -/
def consumes (sure : Rule → Bool) : {α : Type} → Parser ρ α → Bool
  | _, primitive _ => true
  | _, seq first second => first.consumes sure || second.consumes sure
  | _, thenIgnore first second => first.consumes sure || second.consumes sure
  | _, ignoreThen first second => first.consumes sure || second.consumes sure
  | _, alt first second => first.consumes sure && second.consumes sure
  | _, either first second => first.consumes sure && second.consumes sure
  | _, many _ => false
  | _, many1 item => item.consumes sure
  | _, exclude inner _ => inner.consumes sure
  | _, discard inner => inner.consumes sure
  | _, optional _ => false
  | _, map _ inner => inner.consumes sure
  | _, rule handle => sure handle
  | _, unskipped inner => inner.consumes sure
  | _, custom _ => false

/-- The rules that can be entered before a token is taken. -/
def heads (sure : Rule → Bool) : {α : Type} → Parser ρ α → List Rule
  | _, primitive _ => []
  | _, seq first second =>
    first.heads sure ++ if first.consumes sure then [] else second.heads sure
  | _, thenIgnore first second =>
    first.heads sure ++ if first.consumes sure then [] else second.heads sure
  | _, ignoreThen first second =>
    first.heads sure ++ if first.consumes sure then [] else second.heads sure
  | _, alt first second => first.heads sure ++ second.heads sure
  | _, either first second => first.heads sure ++ second.heads sure
  | _, many item => item.heads sure
  | _, many1 item => item.heads sure
  | _, exclude inner excluded => inner.heads sure ++ excluded.heads sure
  | _, discard inner => inner.heads sure
  | _, optional inner => inner.heads sure
  | _, map _ inner => inner.heads sure
  | _, rule handle => [handle]
  | _, unskipped inner => inner.heads sure
  | _, custom _ => []

end Parser

/-- A rank for the rules of a grammar, with some rules known to take a token in every match. A rule
outranks all rules of the grammar that its body can enter before it has taken a token. -/
structure Grammar.Ranking {ρ : Nat → Type} (grammar : Grammar (RuleBody ρ)) where
  rank : Rule → Nat
  sure : Rule → Bool
  consumes_body : ∀ {handle : Rule} {body : Parser ρ (ρ handle.output)},
    grammar.body? handle = some body →
    sure handle = true → body.consumes sure = true
  rank_lt : ∀ {handle : Rule} {body : Parser ρ (ρ handle.output)},
    grammar.body? handle = some body →
    ∀ entered ∈ body.heads sure, grammar.contains entered = true → rank entered < rank handle

namespace Parser

variable {ρ : Nat → Type} {setting : Setting ρ}

/-! ### Parsers that take a token -/

section Consumes

variable (ranking : setting.grammar.Ranking) (hsetting : setting.IsLibrary)

include hsetting

/-- A repetition that has items at all begins with one of them. -/
theorem many_ensures_lt {α : Type} {item : Parser ρ α} (hitem : item.IsLibrary) (fuel cursor : Nat)
    (hadvance : ∀ fuel' < fuel, (item.run fuel' setting cursor).Ensures fun _ next =>
      cursor < next) :
    ((many item).run fuel setting cursor).Ensures fun values next =>
      values.isEmpty = false → cursor < next := by
  cases fuel with
  | zero => exact .exhausted
  | succ fuel =>
    rw [run_many]
    refine (hadvance fuel (Nat.lt_succ_self fuel)).resume (fun value middle hlt => ?_) ?_
    · rw [if_pos hlt]
      refine (run_ensures_yields fuel setting (many item) middle).map _ fun _ _ hrest _ => ?_
      exact Nat.lt_of_lt_of_le hlt (hrest.within hsetting hitem).1
    · exact .matched (by simp)

/-- **Taking a token.** A parser that is built to take a token ends behind where it starts. -/
theorem run_ensures_lt (fuel : Nat) {α : Type} {parser : Parser ρ α} (hparser : parser.IsLibrary)
    (hconsumes : parser.consumes ranking.sure = true) (cursor : Nat) :
    (parser.run fuel setting cursor).Ensures fun _ next => cursor < next := by
  -- `many1` calls `many`, and only that calls the item: hence all smaller fuels.
  induction fuel using Nat.strong_induction_on generalizing α cursor with
  | _ fuel ih =>
  cases fuel with
  | zero => exact .exhausted
  | succ fuel =>
    have hcall : ∀ {γ : Type} {called : Parser ρ γ}, called.IsLibrary → ∀ cursor,
        (called.run fuel setting cursor).Ensures fun _ next =>
          cursor ≤ next ∧ (called.consumes ranking.sure = true → cursor < next) := by
      intro γ called hcalled cursor progress value next hmatched
      have hyields : called.Yields setting cursor (.matched value next) := ⟨_, _, hmatched⟩
      refine ⟨(hyields.within hsetting hcalled).1, fun hsure => ?_⟩
      exact ih fuel (Nat.lt_succ_self fuel) hcalled hsure cursor progress value next hmatched
    have hjoin : ∀ {left right : Bool} {middle next : Nat}, (left || right) = true →
        cursor ≤ middle ∧ (left = true → cursor < middle) →
        middle ≤ next ∧ (right = true → middle < next) → cursor < next := by
      intro left right middle next hor hfirst hsecond
      rcases Bool.or_eq_true_iff.1 hor with hleft | hright
      · exact Nat.lt_of_lt_of_le (hfirst.2 hleft) hsecond.1
      · exact Nat.lt_of_le_of_lt hfirst.1 (hsecond.2 hright)
    cases parser with
    | primitive wanted =>
      refine (run_ensures_yields (fuel + 1) setting (primitive wanted) cursor).mono ?_
      intro value next hyields
      obtain ⟨position, hskips, rfl, -⟩ := hyields.primitive
      exact Nat.lt_succ_of_le (hskips.within hsetting).1
    | seq first second =>
      rw [run_seq]
      exact (hcall hparser.1 cursor).andThen fun _ middle hfirst =>
        (hcall hparser.2 middle).map _ fun _ _ hsecond => hjoin hconsumes hfirst hsecond
    | thenIgnore first second =>
      rw [run_thenIgnore]
      exact (hcall hparser.1 cursor).andThen fun _ middle hfirst =>
        (hcall hparser.2 middle).map _ fun _ _ hsecond => hjoin hconsumes hfirst hsecond
    | ignoreThen first second =>
      rw [run_ignoreThen]
      exact (hcall hparser.1 cursor).andThen fun _ middle hfirst =>
        (hcall hparser.2 middle).mono fun _ _ hsecond => hjoin hconsumes hfirst hsecond
    | alt first second =>
      rw [run_alt]
      obtain ⟨hfirst, hsecond⟩ := Bool.and_eq_true_iff.1 hconsumes
      exact ((hcall hparser.1 cursor).mono fun _ _ h => h.2 hfirst).orElse
        ((hcall hparser.2 cursor).mono fun _ _ h => h.2 hsecond)
    | either first second =>
      rw [run_either]
      obtain ⟨hfirst, hsecond⟩ := Bool.and_eq_true_iff.1 hconsumes
      exact ((hcall hparser.1 cursor).map Sum.inl fun _ _ h => h.2 hfirst).orElse
        ((hcall hparser.2 cursor).map Sum.inr fun _ _ h => h.2 hsecond)
    | many1 item =>
      rw [run_many1]
      have hitem : item.IsLibrary := hparser
      have hitems := many_ensures_lt hsetting hitem fuel cursor fun fuel' hlt =>
        ih fuel' (Nat.lt_succ_of_lt hlt) hitem hconsumes cursor
      refine hitems.andThen fun values next hadvance => ?_
      split
      · exact .failed
      · next hvalues => exact .matched (hadvance (Bool.eq_false_iff.2 hvalues))
    | exclude inner excluded =>
      rw [run_exclude]
      refine (hcall hparser.1 cursor).andThen fun value next hinner => ?_
      exact (hcall hparser.2 cursor).resume (fun _ _ _ => .failed) (.matched (hinner.2 hconsumes))
    | discard inner =>
      rw [run_discard]
      have hinner : inner.IsLibrary := hparser
      exact (hcall hinner cursor).map (fun _ => ()) fun _ _ h => h.2 hconsumes
    | map f inner =>
      rw [run_map]
      have hinner : inner.IsLibrary := hparser
      exact (hcall hinner cursor).map f fun _ _ h => h.2 hconsumes
    | rule handle =>
      rw [run_rule]
      cases hbody : setting.grammar.body? handle with
      | none => exact .after _ .failed
      | some body =>
        have hsure := ranking.consumes_body hbody hconsumes
        refine .after _ ((hcall (hsetting.grammar.body hbody) cursor).resume ?_ (.after _ .failed))
        exact fun _ _ h => .after _ (.matched (h.2 hsure))
    | many item => cases hconsumes
    | optional inner => cases hconsumes
    | unskipped inner => exact hparser.elim
    | custom act => exact hparser.elim

theorem Yields.lt_of_consumes {skipping : Bool} {α : Type} {parser : Parser ρ α}
    {cursor next : Nat} {value : α}
    (hyields : parser.Yields (withSkipping setting skipping) cursor (.matched value next))
    (hparser : parser.IsLibrary) (hconsumes : parser.consumes ranking.sure = true) :
    cursor < next := by
  obtain ⟨fuel, progress, hmatched⟩ := hyields
  cases skipping with
  | true => exact run_ensures_lt ranking hsetting fuel hparser hconsumes cursor _ _ _ hmatched
  | false =>
    have hensures := run_ensures_lt (show setting.withoutSkip.grammar.Ranking from ranking)
      hsetting.withoutSkip fuel hparser hconsumes cursor
    exact hensures _ _ _ hmatched

end Consumes

end Parser

/-! ### Weights -/

namespace Grammar.Ranking

variable {ρ : Nat → Type} {α β : Type} {grammar : Grammar (RuleBody ρ)} (ranking : grammar.Ranking)

/-- The rules that the parser can enter before it takes a token all rank below this. -/
def ceiling (parser : Parser ρ α) : Nat :=
  (parser.heads ranking.sure).toFinset.sup fun handle =>
    if grammar.contains handle = true then ranking.rank handle + 1 else 0

theorem ceiling_mono {parser : Parser ρ α} {called : Parser ρ β}
    (hsubset : called.heads ranking.sure ⊆ parser.heads ranking.sure) :
    ranking.ceiling called ≤ ranking.ceiling parser := by
  apply Finset.sup_mono
  intro handle hhandle
  rw [List.mem_toFinset] at hhandle ⊢
  exact hsubset hhandle

theorem ceiling_body_lt {handle : Rule} {body : Parser ρ (ρ handle.output)}
    (hbody : grammar.body? handle = some body) :
    ranking.ceiling body < ranking.ceiling (.rule handle : RuleBody ρ handle.output) := by
  have hcontains := contains_of_body? hbody
  have hrule : ranking.ceiling (.rule handle : RuleBody ρ handle.output) =
      ranking.rank handle + 1 := by
    simp [ceiling, Parser.heads, hcontains]
  rw [hrule, Nat.lt_succ_iff]
  apply Finset.sup_le
  intro entered hentered
  split
  · next hinside => exact ranking.rank_lt hbody entered (List.mem_toFinset.1 hentered) hinside
  · exact Nat.zero_le _

end Grammar.Ranking

namespace Parser

variable {ρ : Nat → Type} {setting : Setting ρ} (ranking : setting.grammar.Ranking)

def Stage.weight (stage : Stage ρ) : Nat ×ₗ Nat ×ₗ Nat ×ₗ Nat :=
  toLex (stage.skipping.toNat, toLex (setting.finish - stage.cursor,
    toLex (ranking.ceiling stage.part.2, stage.part.2.size)))

section Weight

variable {skipping : Bool} {part called : Σ α : Type, Parser ρ α} {cursor next : Nat}

theorem weight_lt_of_skipping (reached : Nat) :
    Stage.weight ranking ⟨false, called, reached⟩ < Stage.weight ranking ⟨true, part, cursor⟩ := by
  simp [Stage.weight, Prod.Lex.toLex_lt_toLex]

theorem weight_lt_of_advance (hlt : cursor < next) (hlimit : next ≤ max cursor setting.finish) :
    Stage.weight ranking ⟨skipping, called, next⟩ <
      Stage.weight ranking ⟨skipping, part, cursor⟩ := by
  have hleft : setting.finish - next < setting.finish - cursor := by omega
  simp [Stage.weight, Prod.Lex.toLex_lt_toLex, hleft]

theorem weight_lt_of_ceiling (hlt : ranking.ceiling called.2 < ranking.ceiling part.2) :
    Stage.weight ranking ⟨skipping, called, cursor⟩ <
      Stage.weight ranking ⟨skipping, part, cursor⟩ := by
  simp [Stage.weight, Prod.Lex.toLex_lt_toLex, hlt]

theorem weight_lt_of_size (hsubset : called.2.heads ranking.sure ⊆ part.2.heads ranking.sure)
    (hlt : called.2.size < part.2.size) :
    Stage.weight ranking ⟨skipping, called, cursor⟩ <
      Stage.weight ranking ⟨skipping, part, cursor⟩ := by
  rcases Nat.lt_or_eq_of_le (ranking.ceiling_mono hsubset) with hceiling | hceiling
  · exact weight_lt_of_ceiling ranking hceiling
  · simp [Stage.weight, Prod.Lex.toLex_lt_toLex, hceiling, hlt]

end Weight

theorem Begins.weight_lt {α β : Type} {parser : Parser ρ α} {first : Parser ρ β}
    (hbegins : Begins setting.grammar parser first) (skipping : Bool) (cursor : Nat) :
    Stage.weight ranking ⟨skipping, ⟨β, first⟩, cursor⟩ <
      Stage.weight ranking ⟨skipping, ⟨α, parser⟩, cursor⟩ := by
  cases hbegins with
  | rule hbody => exact weight_lt_of_ceiling ranking (ranking.ceiling_body_lt hbody)
  | seq | thenIgnore | ignoreThen | alt | either | many | many1 | exclude | discard | optional
  | map =>
    apply weight_lt_of_size
    · simp [heads]
    · simp only [size]
      omega

/-- **Every attempt lowers the weight.** -/
theorem Tries.weight_lt (hsetting : setting.IsLibrary) {stage next : Stage ρ}
    (htries : Tries setting stage next) (hstage : stage.part.2.IsLibrary) :
    next.weight ranking < stage.weight ranking := by
  obtain ⟨hstart, hlimit⟩ := htries.within hsetting hstage
  cases htries with
  | skips _ _ => exact weight_lt_of_skipping ranking _
  | begins hbegins => exact hbegins.weight_lt ranking _ _
  | @follows skipping _ _ _ _ first _ cursor middle _ hfollows hfirst =>
    -- If the first component takes nothing, the heads of the second are heads of the whole.
    by_cases hadvance : cursor < middle
    · exact weight_lt_of_advance ranking hadvance hlimit
    · have hstays : first.consumes ranking.sure = false := by
        rw [Bool.eq_false_iff]
        intro hconsumes
        have hlibrary := (hfollows.isLibrary hstage).1
        exact hadvance (hfirst.lt_of_consumes ranking hsetting hlibrary hconsumes)
      obtain rfl : middle = cursor := Nat.le_antisymm (Nat.not_lt.1 hadvance) hstart
      apply weight_lt_of_size
      · cases hfollows <;> simp [heads, hstays]
      · cases hfollows <;> simp only [size] <;> omega
  | repeats _ hadvance => exact weight_lt_of_advance ranking hadvance hlimit
  | chooses hchooses _ =>
    apply weight_lt_of_size
    · cases hchooses <;> simp [heads]
    · cases hchooses <;> simp only [size] <;> omega
  | excludes _ =>
    apply weight_lt_of_size
    · simp [heads]
    · simp only [size]
      omega

/-- **Halting, whole runs.** In a grammar with a ranking, every library parser halts. -/
theorem Stage.halts (ranking : setting.grammar.Ranking) (hsetting : setting.IsLibrary)
    (stage : Stage ρ) (hstage : stage.part.2.IsLibrary) : stage.Halts setting := by
  induction hweight : stage.weight ranking using WellFoundedLT.induction generalizing stage with
  | ind weight ih =>
    subst hweight
    apply Stage.halts_of_tries hsetting hstage
    intro next htries
    have hlibrary := htries.isLibrary hsetting hstage
    exact ih _ (htries.weight_lt ranking hsetting hstage) next hlibrary rfl

end Parser

end TokenGrammar
