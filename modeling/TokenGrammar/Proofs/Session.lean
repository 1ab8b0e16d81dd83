import TokenGrammar.Proofs.Parser.Allowance
import TokenGrammar.Proofs.Parser.PassingOver

/-!
# Answers in a session

What a library parser answers with enough fuel is what it answers in a session, where it has the
allowance, and what it answers there decides how matching all tokens ends.
-/

namespace TokenGrammar

namespace Session

variable {ρ : Nat → Type} {α : Type} {session : Session ρ} {parser : Parser ρ α}
  {skip? : Option (Parser ρ Unit)}
  {start finish : Nat}

section Library

variable (hgrammar : session.grammar.IsLibrary) (hparser : parser.IsLibrary)
  (hskip : ∀ skip, skip? = some skip → skip.IsLibrary)

include hgrammar hparser hskip

theorem run_allowance_gives {outcome : Outcome α} {reach : Nat}
    (hanswers : parser.Answers (Setting.new session.tokens finish session.grammar skip?) start
      outcome reach)
    (hanswer : outcome ≠ .exhausted) :
    (parser.run (session.allowance parser skip?)
      (Setting.new session.tokens finish session.grammar skip?) start).Gives outcome reach := by
  intro progress
  obtain ⟨least, hgives⟩ := hanswers
  have hhalts : parser.Halts (Setting.new session.tokens finish session.grammar skip?) start :=
    ⟨least, by rwa [(hgives least le_rfl ⟨0, []⟩).1]⟩
  have hallowance := run_allowance_ne_exhausted hgrammar hparser hskip hhalts progress
  have heq := Parser.run_eq_of_le ⟨hgrammar, hskip⟩ hparser
    (Nat.le_max_left (session.allowance parser skip?) least) hallowance
  rw [← heq]
  exact hgives _ (Nat.le_max_right _ _) progress

theorem ends_of_answers {outcome : Outcome α} {reach : Nat}
    (hanswers : parser.Answers (Setting.new session.tokens finish session.grammar skip?) start
      outcome reach)
    (hanswer : outcome ≠ .exhausted) : session.Ends parser start finish skip? := by
  have hgives := run_allowance_gives hgrammar hparser hskip hanswers hanswer ⟨start, []⟩
  rw [Ends, hgives.1]
  exact hanswer

/-- In a run that halts, more fuel than the allowance makes no difference. -/
theorem run_allowance_le
    (hhalts : parser.Halts (Setting.new session.tokens finish session.grammar skip?) start)
    {fuel : Nat} (hfuel : session.allowance parser skip? ≤ fuel) (progress : Progress) :
    (parser.run fuel (Setting.new session.tokens finish session.grammar skip?) start
        progress).1 ≠ .exhausted ∧
      parser.run fuel (Setting.new session.tokens finish session.grammar skip?) start progress =
        parser.run (session.allowance parser skip?)
          (Setting.new session.tokens finish session.grammar skip?) start progress := by
  have hallowed := run_allowance_ne_exhausted hgrammar hparser hskip hhalts progress
  have hmore := Parser.run_eq_of_le ⟨hgrammar, hskip⟩ hparser hfuel hallowed
  refine ⟨?_, hmore⟩
  rw [hmore]
  exact hallowed

theorem skipFrom_related_allowance (fuel : Nat) {cursor limit : Nat}
    (hlimit : limit = max cursor (Setting.new session.tokens finish session.grammar skip?).finish) :
    (Correspondence.within cursor limit).Related cursor cursor
      (Parser.skipFrom fuel (Setting.new session.tokens finish session.grammar skip?) cursor)
      (Parser.skipFrom (session.allowance parser skip?)
        (Setting.new session.tokens finish session.grammar skip?) cursor) := by
  set setting := Setting.new session.tokens finish session.grammar skip?
  have hsize : setting.finish ≤ session.tokens.size := Nat.min_le_right _ _
  have hsetting : setting.IsLibrary := ⟨hgrammar, hskip⟩
  have hbounds : cursor ≤ limit ∧ setting.finish ≤ limit := by omega
  have hstart : (Correspondence.within cursor limit).cursor cursor cursor :=
    ⟨rfl, le_rfl, hbounds.1⟩
  cases hsome : setting.skip? with
  | none =>
    rw [Parser.skipFrom_of_none hsome, Parser.skipFrom_of_none hsome]
    exact .matched () hstart (.refl cursor cursor)
  | some skip =>
    rw [Parser.skipFrom_of_some hsome, Parser.skipFrom_of_some hsome]
    have hlibrary : skip.IsLibrary := hskip skip hsome
    refine Correspondence.chain ?_ _ _ hstart (Or.inr ⟨limit, ?_, ?_⟩)
    · rintro left right ⟨rfl, hleft, hright⟩
      let stage : Parser.Stage ρ := ⟨false, ⟨Unit, skip⟩, left⟩
      have hclosed := closed_repertoire hgrammar hparser hskip finish
      refine Parser.related_of_depth_le hsetting.withoutSkip hlibrary hbounds.2 hleft hright
        fun hanswer => ?_
      have hhalts : stage.Halts setting := ⟨fuel, hanswer⟩
      exact depth_le_allowance hgrammar hparser hskip finish (hclosed.skip skip hsome) hhalts
    · rintro left right ⟨rfl, -, hright⟩
      exact hright
    · have hcursors : limit + 1 - cursor ≤ session.tokens.size + 1 := by omega
      have hstages : 2 * ((session.repertoire parser skip?).length * (limit + 1 - cursor)) +
          (limit + 1 - cursor) + 1 ≤ session.allowance parser skip? := stages_le_allowance hcursors
      omega

theorem skipFrom_allowance_gives_of_lands {cursor position reach : Nat}
    (hlands : (Setting.new session.tokens finish session.grammar skip?).Lands cursor position
      reach) :
    (Parser.skipFrom (session.allowance parser skip?)
      (Setting.new session.tokens finish session.grammar skip?) cursor).Gives
        (.matched () position) reach := by
  intro progress
  obtain ⟨least, hgives⟩ := hlands
  set setting := Setting.new session.tokens finish session.grammar skip?
  have hrelated : (Correspondence.within cursor (max cursor setting.finish)).Related cursor cursor
      (Parser.skipFrom least setting cursor)
      (Parser.skipFrom (session.allowance parser skip?) setting cursor) :=
    skipFrom_related_allowance hgrammar hparser hskip least rfl
  have hanswer := hgives least le_rfl progress
  rw [(hrelated progress progress rfl).eq_of_within (by rw [hanswer.1]; simp)]
  exact hanswer

theorem skipFrom_allowance_gives {passed : Token → Bool}
    (hpasses : (Setting.new session.tokens finish session.grammar skip?).PassesOver passed)
    (cursor : Nat) :
    (Parser.skipFrom (session.allowance parser skip?)
        (Setting.new session.tokens finish session.grammar skip?) cursor).Gives
      (.matched () (settle passed
        (Setting.new session.tokens finish session.grammar skip?).visible cursor))
      (settle passed (Setting.new session.tokens finish session.grammar skip?).visible cursor) :=
  skipFrom_allowance_gives_of_lands hgrammar hparser hskip (Parser.lands_settle hpasses cursor)

end Library

/-! ### Matching all tokens -/

/-- What an attempt at all tokens comes to. -/
def verdict (session : Session ρ) : Outcome α × Progress → Except SyntaxError α
  | (.matched value rest, progress) =>
    if rest = session.tokens.size then .ok value
    else .error (.ofPosition session.tokens (max rest progress.furthest))
  | (_, progress) => .error (.ofPosition session.tokens progress.furthest)

theorem parseAll_value (session : Session ρ) (parser : Parser ρ α)
    (skip? : Option (Parser ρ Unit)) :
    let fuel := session.allowance parser skip?
    let setting := Setting.new session.tokens session.tokens.size session.grammar skip?
    let attempt := (parser.run fuel setting 0).andThen fun value next =>
      (Parser.skipFrom fuel setting next).map fun _ => value
    (session.parseAll parser skip?).value = session.verdict (attempt ⟨0, []⟩) := by
  intro fuel setting attempt
  simp only [parseAll, attempt, fuel, setting]
  generalize (Attempt.andThen _ _ : Attempt α) ⟨0, []⟩ = result
  obtain ⟨outcome, progress⟩ := result
  cases outcome with
  | matched value rest =>
    simp only [verdict]
    split <;> rfl
  | failed => rfl
  | exhausted => rfl

section ParseAll

variable {value : α} {next rest : Nat} {progress progress' : Progress}

theorem parseAll_value_of_matched
    (hrun : parser.run (session.allowance parser skip?)
      (Setting.new session.tokens session.tokens.size session.grammar skip?) 0 ⟨0, []⟩ =
        (.matched value next, progress))
    (hrest : Parser.skipFrom (session.allowance parser skip?)
      (Setting.new session.tokens session.tokens.size session.grammar skip?) next progress =
        (.matched () rest, progress')) :
    (session.parseAll parser skip?).value =
      if rest = session.tokens.size then .ok value
      else .error (.ofPosition session.tokens (max rest progress'.furthest)) := by
  rw [parseAll_value]
  simp only [Attempt.andThen, Attempt.map, Attempt.resume, hrun, hrest, Attempt.matched, verdict]

theorem parseAll_value_of_failed
    (hrun : parser.run (session.allowance parser skip?)
      (Setting.new session.tokens session.tokens.size session.grammar skip?) 0 ⟨0, []⟩ =
        (.failed, progress)) :
    (session.parseAll parser skip?).value =
      .error (.ofPosition session.tokens progress.furthest) := by
  rw [parseAll_value]
  simp only [Attempt.andThen, Attempt.resume, hrun, Attempt.failed, verdict]

theorem parseAll_value_of_exhausted
    (hrun : parser.run (session.allowance parser skip?)
      (Setting.new session.tokens session.tokens.size session.grammar skip?) 0 ⟨0, []⟩ =
        (.exhausted, progress)) :
    (session.parseAll parser skip?).value =
      .error (.ofPosition session.tokens progress.furthest) := by
  rw [parseAll_value]
  simp only [Attempt.andThen, Attempt.resume, hrun, verdict]

theorem endsAll_of_failed
    (hrun : parser.run (session.allowance parser skip?)
      (Setting.new session.tokens session.tokens.size session.grammar skip?) 0 ⟨0, []⟩ =
        (.failed, progress)) :
    session.EndsAll parser skip? := by
  simp [EndsAll, Attempt.andThen, Attempt.resume, hrun, Attempt.failed]

theorem endsAll_of_matched
    (hrun : parser.run (session.allowance parser skip?)
      (Setting.new session.tokens session.tokens.size session.grammar skip?) 0 ⟨0, []⟩ =
        (.matched value next, progress))
    (hrest : Parser.skipFrom (session.allowance parser skip?)
      (Setting.new session.tokens session.tokens.size session.grammar skip?) next progress =
        (.matched () rest, progress')) :
    session.EndsAll parser skip? := by
  simp [EndsAll, Attempt.andThen, Attempt.map, Attempt.resume, hrun, hrest, Attempt.matched]

/-- Where skipping leads from the end of a match to the end of the tokens, all of them match. -/
theorem parseAll_value_eq_ok_iff {rest reach : Nat → Nat}
    (hrest : ∀ next, (Parser.skipFrom (session.allowance parser skip?)
      (Setting.new session.tokens session.tokens.size session.grammar skip?) next).Gives
        (.matched () (rest next)) (reach next)) (value : α) :
    (session.parseAll parser skip?).value = .ok value ↔
      ∃ next, (parser.run (session.allowance parser skip?)
        (Setting.new session.tokens session.tokens.size session.grammar skip?) 0 ⟨0, []⟩).1 =
          .matched value next ∧ rest next = session.tokens.size := by
  generalize hrun : parser.run (session.allowance parser skip?)
    (Setting.new session.tokens session.tokens.size session.grammar skip?) 0 ⟨0, []⟩ = result
  obtain ⟨outcome, progress⟩ := result
  cases outcome with
  | failed => simp [parseAll_value_of_failed hrun]
  | exhausted => simp [parseAll_value_of_exhausted hrun]
  | matched found next =>
    obtain ⟨_, hskip, -⟩ := (hrest next).exists_progress progress
    rw [parseAll_value_of_matched hrun hskip]
    by_cases hend : rest next = session.tokens.size
    · simp [hend]
    · rw [if_neg hend]
      simp only [reduceCtorEq, Outcome.matched.injEq, false_iff, not_exists]
      rintro other ⟨⟨-, rfl⟩, hother⟩
      exact hend hother

section Answers

variable (hgrammar : session.grammar.IsLibrary) (hparser : parser.IsLibrary)
  (hskip : ∀ skip, skip? = some skip → skip.IsLibrary) {reach : Nat}

include hgrammar hparser hskip

theorem parseAll_value_of_answers_failed
    (hanswers : parser.Answers
      (Setting.new session.tokens session.tokens.size session.grammar skip?) 0 .failed reach) :
    (session.parseAll parser skip?).value = .error (.ofPosition session.tokens reach) := by
  have hgives := run_allowance_gives hgrammar hparser hskip hanswers (by simp)
  obtain ⟨progress, hrun, hfurthest⟩ := hgives.exists_progress ⟨0, []⟩
  rw [parseAll_value_of_failed hrun, hfurthest, Nat.zero_max]

theorem endsAll_of_answers_failed
    (hanswers : parser.Answers
      (Setting.new session.tokens session.tokens.size session.grammar skip?) 0 .failed reach) :
    session.EndsAll parser skip? := by
  have hgives := run_allowance_gives hgrammar hparser hskip hanswers (by simp)
  obtain ⟨progress, hrun, -⟩ := hgives.exists_progress ⟨0, []⟩
  exact endsAll_of_failed hrun

theorem parseAll_value_of_lands {reach' : Nat}
    (hanswers : parser.Answers
      (Setting.new session.tokens session.tokens.size session.grammar skip?) 0
      (.matched value next) reach)
    (hlands : (Setting.new session.tokens session.tokens.size session.grammar skip?).Lands next rest
      reach') :
    (session.parseAll parser skip?).value =
      if rest = session.tokens.size then .ok value
      else .error (.ofPosition session.tokens (max rest (max reach reach'))) := by
  have hgives := run_allowance_gives hgrammar hparser hskip hanswers (by simp)
  have hrest := skipFrom_allowance_gives_of_lands hgrammar hparser hskip hlands
  obtain ⟨progress, hrun, hfurthest⟩ := hgives.exists_progress ⟨0, []⟩
  obtain ⟨progress', hskipped, hfurthest'⟩ := hrest.exists_progress progress
  rw [parseAll_value_of_matched hrun hskipped, hfurthest', hfurthest, Nat.zero_max]

theorem endsAll_of_lands {reach' : Nat}
    (hanswers : parser.Answers
      (Setting.new session.tokens session.tokens.size session.grammar skip?) 0
      (.matched value next) reach)
    (hlands : (Setting.new session.tokens session.tokens.size session.grammar skip?).Lands next rest
      reach') :
    session.EndsAll parser skip? := by
  have hgives := run_allowance_gives hgrammar hparser hskip hanswers (by simp)
  have hrest := skipFrom_allowance_gives_of_lands hgrammar hparser hskip hlands
  obtain ⟨progress, hrun, -⟩ := hgives.exists_progress ⟨0, []⟩
  obtain ⟨progress', hskipped, -⟩ := hrest.exists_progress progress
  exact endsAll_of_matched hrun hskipped

theorem parseAll_value_of_answers_matched {passed : Token → Bool}
    (hpasses : (Setting.new session.tokens session.tokens.size session.grammar skip?).PassesOver
      passed)
    (hanswers : parser.Answers
      (Setting.new session.tokens session.tokens.size session.grammar skip?) 0
      (.matched value next) reach) :
    (session.parseAll parser skip?).value =
      if settle passed session.tokens.tokens.toList next = session.tokens.size then .ok value
      else .error (.ofPosition session.tokens
        (max (settle passed session.tokens.tokens.toList next) reach)) := by
  have hlands := Parser.lands_settle hpasses next
  rw [Setting.visible_new_size] at hlands
  rw [parseAll_value_of_lands hgrammar hparser hskip hanswers hlands, Nat.max_left_comm,
    Nat.max_self, Nat.max_comm reach]

end Answers

end ParseAll

end Session

end TokenGrammar
