import TokenGrammar.Proofs.Session

/-!
# Windows

A run sees the tokens from its start up to its end bound, and of these only the kind and the text.
Two runs over windows that look alike therefore do the same, wherever the windows lie in their
sequences and whatever stands around them: they agree in the value, and their cursors and furthest
refusals lie equally far from the start.
-/

namespace TokenGrammar

/-- Tokens that no parser tells apart. -/
def Token.Alike (left right : Token) : Prop := left.id = right.id ∧ left.text = right.text

theorem Primitive.decode_eq_of_alike {α : Type} (wanted : Primitive α) {left right : Token}
    (halike : left.Alike right) : wanted.decode left = wanted.decode right := by
  obtain ⟨id, tag, text, span⟩ := left
  obtain ⟨id', tag', text', span'⟩ := right
  obtain ⟨rfl, rfl⟩ : id = id' ∧ text = text' := halike
  rfl

namespace Setting

variable {ρ : Nat → Type}

/-- What one setting sees from `start` on looks like what the other sees from `start'` on. -/
structure SameWindow (first second : Setting ρ) (start start' : Nat) : Prop where
  grammar : second.grammar = first.grammar
  skip : second.skip? = first.skip?
  start_le : start ≤ first.finish
  finish : first.finish + start' = second.finish + start
  alike : ∀ {left right : Nat}, start ≤ left → left < first.finish →
    left + start' = right + start →
      ∃ token token', first.tokenAt left = some token ∧ second.tokenAt right = some token' ∧
        token.Alike token'

theorem SameWindow.symm {first second : Setting ρ} {start start' : Nat}
    (hsame : SameWindow first second start start') : SameWindow second first start' start where
  grammar := hsame.grammar.symm
  skip := hsame.skip.symm
  start_le := by
    have := hsame.start_le
    have := hsame.finish
    omega
  finish := hsame.finish.symm
  alike := by
    intro right left hstart hlt hshift
    have hfinish := hsame.finish
    have hleft : start ≤ left ∧ left < first.finish := by omega
    obtain ⟨token, token', htoken, htoken', hid, htext⟩ :=
      hsame.alike hleft.1 hleft.2 hshift.symm
    exact ⟨token', token, htoken', htoken, hid.symm, htext.symm⟩

theorem SameWindow.isLibrary {first second : Setting ρ} {start start' : Nat}
    (hsame : SameWindow first second start start') (hfirst : first.IsLibrary) :
    second.IsLibrary where
  grammar := by
    rw [hsame.grammar]
    exact hfirst.grammar
  skip := by
    rw [hsame.skip]
    exact hfirst.skip

theorem tokenAt_eq_none_of_le {setting : Setting ρ} {cursor : Nat} (h : setting.finish ≤ cursor) :
    setting.tokenAt cursor = none := by
  rw [tokenAt, if_neg (Nat.not_lt.2 h)]

end Setting

namespace Correspondence

/-- A run up to an end bound beside a run elsewhere. -/
def shifted (start start' finish : Nat) : Correspondence where
  cursor left right := start ≤ left ∧ left ≤ finish ∧ left + start' = right + start
  progress p q := p.furthest + start' = q.furthest + start
  enteredRule := fun _ _ hprogress => hprogress
  leftRule := fun _ _ _ hprogress => hprogress
  unknownRule := fun _ hprogress => hprogress

end Correspondence

namespace Parser

variable {ρ : Nat → Type} {α : Type} {first second : Setting ρ} {start start' : Nat}

theorem take_shifted (hsame : Setting.SameWindow first second start start') (wanted : Primitive α)
    {left right : Nat}
    (hcursor : (Correspondence.shifted start start' first.finish).cursor left right) :
    (Correspondence.shifted start start' first.finish).Related left right
      (take first wanted left) (take second wanted right) := by
  obtain ⟨hstart, hle, hshift⟩ := hcursor
  have hrefused : (Correspondence.shifted start start' first.finish).Related left right
      (Attempt.refused left : Attempt α) (Attempt.refused right) := by
    intro p q hprogress
    apply Correspondence.Agree.failed
    change max p.furthest left + start' = max q.furthest right + start
    have hfurthest : p.furthest + start' = q.furthest + start := hprogress
    omega
  by_cases hlt : left < first.finish
  · obtain ⟨token, token', htoken, htoken', halike⟩ := hsame.alike hstart hlt hshift
    simp only [take, htoken, htoken', wanted.decode_eq_of_alike halike]
    split
    · exact hrefused
    · intro p q hprogress
      exact .matched _ ⟨by omega, by omega, by omega⟩ ⟨by omega, by omega, by omega⟩ hprogress
  · have hfinish := hsame.finish
    simp only [take, Setting.tokenAt_eq_none_of_le (Nat.not_lt.1 hlt),
      Setting.tokenAt_eq_none_of_le (show second.finish ≤ right by omega)]
    exact hrefused

section Run

variable (hsame : Setting.SameWindow first second start start') (hfirst : first.IsLibrary)
  {parser : Parser ρ α} (hparser : parser.IsLibrary)

include hsame hfirst hparser

theorem run_shifted (fuel : Nat) :
    (Correspondence.shifted start start' first.finish).Related start start'
      (parser.run fuel first start) (parser.run fuel second start') := by
  refine Correspondence.run_of_take hfirst hsame.grammar hsame.skip ?_ 0 fuel hparser ?_
  · intro γ wanted left right hcursor
    exact take_shifted hsame wanted hcursor
  · exact ⟨Nat.le_refl start, hsame.start_le, Nat.add_comm start start'⟩

theorem halts_of_sameWindow (hhalts : parser.Halts first start) : parser.Halts second start' := by
  obtain ⟨fuel, hanswer⟩ := hhalts
  rw [run_outcome_eq hfirst hparser fuel start ⟨0, []⟩ ⟨start, []⟩] at hanswer
  have hagree := run_shifted hsame hfirst hparser fuel ⟨start, []⟩ ⟨start', []⟩
    (Nat.add_comm start start')
  refine ⟨fuel, ?_⟩
  rw [run_outcome_eq (hsame.isLibrary hfirst) hparser fuel start' ⟨0, []⟩ ⟨start', []⟩]
  exact hagree.ne_exhausted hanswer

theorem halts_iff_of_sameWindow : parser.Halts first start ↔ parser.Halts second start' :=
  ⟨halts_of_sameWindow hsame hfirst hparser,
    halts_of_sameWindow hsame.symm (hsame.isLibrary hfirst) hparser⟩

end Run

end Parser

/-- Results that are the same up to where their runs start. -/
structure Match.Shifted {α : Type} (start start' : Nat) (result result' : Match α) : Prop where
  value : result'.value? = result.value?
  cursor : result'.cursor + start = result.cursor + start'
  furthest : result'.furthest + start = result.furthest + start'

theorem Match.shifted_of_agree {α : Type} {start start' finish : Nat}
    {result result' : Outcome α × Progress}
    (hagree : (Correspondence.shifted start start' finish).Agree start start' result result')
    (hne : result.1 ≠ .exhausted) :
    Shifted start start' (ofOutcome start result) (ofOutcome start' result') := by
  cases hagree with
  | exhausted => exact absurd rfl hne
  | @failed p q hprogress =>
    have hfurthest : p.furthest + start' = q.furthest + start := hprogress
    exact ⟨rfl, Nat.add_comm start' start, hfurthest.symm⟩
  | @matched next next' p q value hcursor hmove hprogress =>
    have hfurthest : p.furthest + start' = q.furthest + start := hprogress
    obtain ⟨-, -, hnext⟩ := hcursor
    refine ⟨rfl, hnext.symm, ?_⟩
    change max next' q.furthest + start = max next p.furthest + start'
    omega

namespace Session

variable {ρ : Nat → Type} {α : Type}

theorem sameWindow_new (grammar : Grammar (RuleBody ρ)) (skip? : Option (Parser ρ Unit))
    {tokens tokens' : TokenSequence} {start finish start' finish' : Nat} (hstart : start ≤ finish)
    (hfinish : finish ≤ tokens.size) (hstart' : start' ≤ finish')
    (hfinish' : finish' ≤ tokens'.size) (hwidth : finish - start = finish' - start')
    (halike : ∀ index < finish - start, ∃ token token', tokens.get? (start + index) = some token ∧
      tokens'.get? (start' + index) = some token' ∧ token.Alike token') :
    Setting.SameWindow (Setting.new tokens finish grammar skip?)
      (Setting.new tokens' finish' grammar skip?) start start' := by
  have hbound : (Setting.new tokens finish grammar skip?).finish = finish := Nat.min_eq_left hfinish
  have hbound' : (Setting.new tokens' finish' grammar skip?).finish = finish' :=
    Nat.min_eq_left hfinish'
  refine ⟨rfl, rfl, by omega, by omega, ?_⟩
  intro left right hleft hlt hshift
  obtain ⟨index, rfl⟩ := Nat.exists_eq_add_of_le hleft
  obtain rfl : right = start' + index := by omega
  obtain ⟨token, token', htoken, htoken', hsame⟩ := halike index (by omega)
  refine ⟨token, token', ?_, ?_, hsame⟩
  · rw [Setting.tokenAt, if_pos hlt]
    exact htoken
  · rw [Setting.tokenAt, if_pos (by omega)]
    exact htoken'

theorem run_eq_of_size_le (session : Session ρ) (parser : Parser ρ α)
    (skip? : Option (Parser ρ Unit)) (start : Nat) {finish : Nat}
    (hfinish : session.tokens.size ≤ finish) :
    session.run parser start finish skip? = session.run parser start session.tokens.size skip? := by
  have hbound : Setting.new session.tokens finish session.grammar skip? =
      Setting.new session.tokens session.tokens.size session.grammar skip? := by
    rw [Setting.new, Setting.new, Nat.min_eq_right hfinish, Nat.min_self]
  rw [run, run, hbound]

theorem run_value_shifted {session session' : Session ρ} {parser : Parser ρ α}
    {skip? : Option (Parser ρ Unit)} {start finish start' finish' : Nat}
    (hsame : Setting.SameWindow (Setting.new session.tokens finish session.grammar skip?)
      (Setting.new session'.tokens finish' session'.grammar skip?) start start')
    (hgrammar : session.grammar.IsLibrary) (hparser : parser.IsLibrary)
    (hskip : ∀ skip, skip? = some skip → skip.IsLibrary)
    (hhalts : parser.Halts (Setting.new session.tokens finish session.grammar skip?) start) :
    Match.Shifted start start' (session.run parser start finish skip?).value
      (session'.run parser start' finish' skip?).value := by
  have hfirst : (Setting.new session.tokens finish session.grammar skip?).IsLibrary :=
    ⟨hgrammar, hskip⟩
  have hhalts' := Parser.halts_of_sameWindow hsame hfirst hparser hhalts
  have hgrammar' : session'.grammar.IsLibrary := (hsame.isLibrary hfirst).grammar
  -- The sessions allow different amounts of fuel, so the runs are compared with the larger one.
  set fuel := max (session.allowance parser skip?) (session'.allowance parser skip?)
  obtain ⟨hanswer, hmore⟩ := run_allowance_le hgrammar hparser hskip hhalts
    (Nat.le_max_left _ _ : _ ≤ fuel) ⟨start, []⟩
  obtain ⟨-, hmore'⟩ := run_allowance_le hgrammar' hparser hskip hhalts'
    (Nat.le_max_right _ _ : _ ≤ fuel) ⟨start', []⟩
  have hagree := Parser.run_shifted hsame hfirst hparser fuel ⟨start, []⟩ ⟨start', []⟩
    (Nat.add_comm start start')
  have hshifted := Match.shifted_of_agree hagree hanswer
  rwa [hmore, hmore'] at hshifted

/-- **A run depends on its window alone.** Over windows of the same width whose tokens have the same
kinds and texts, a library parser halts on both or on neither, and if it halts, the results differ
only in where the windows start. An end bound past the sequence stands for its end. -/
theorem run_depends_on_window (grammar : Grammar (RuleBody ρ)) (parser : Parser ρ α)
    (skip? : Option (Parser ρ Unit)) (hgrammar : grammar.IsLibrary) (hparser : parser.IsLibrary)
    (hskip : ∀ skip, skip? = some skip → skip.IsLibrary) (tokens tokens' : TokenSequence)
    (start finish start' finish' : Nat) (hstart : start ≤ finish) (hfinish : finish ≤ tokens.size)
    (hstart' : start' ≤ finish') (hfinish' : finish' ≤ tokens'.size)
    (hwidth : finish - start = finish' - start')
    (halike : ∀ index < finish - start, ∃ token token', tokens.get? (start + index) = some token ∧
      tokens'.get? (start' + index) = some token' ∧ token.Alike token') :
    let session : Session ρ := ⟨grammar, tokens⟩
    let session' : Session ρ := ⟨grammar, tokens'⟩
    (parser.Halts (Setting.new tokens finish grammar skip?) start ↔
      parser.Halts (Setting.new tokens' finish' grammar skip?) start') ∧
    (parser.Halts (Setting.new tokens finish grammar skip?) start →
      Match.Shifted start start' (session.run parser start finish skip?).value
        (session'.run parser start' finish' skip?).value) ∧
    ∀ start bound, tokens.size ≤ bound →
      session.run parser start bound skip? = session.run parser start tokens.size skip? := by
  intro session session'
  have hsame : Setting.SameWindow (Setting.new session.tokens finish session.grammar skip?)
      (Setting.new session'.tokens finish' session'.grammar skip?) start start' :=
    sameWindow_new grammar skip? hstart hfinish hstart' hfinish' hwidth halike
  refine ⟨?_, ?_, ?_⟩
  · exact Parser.halts_iff_of_sameWindow hsame ⟨hgrammar, hskip⟩ hparser
  · intro hhalts
    exact run_value_shifted hsame hgrammar hparser hskip hhalts
  · intro start bound hbound
    exact run_eq_of_size_le session parser skip? start hbound

/-- Two letters with a blank between them, among other letters and on their own. -/
theorem run_on_letters_and_within_letters :
    let letter : Kind String := ⟨0, "letter", some⟩
    let grammar : Grammar (RuleBody String) := ⟨1, [⟨"letter", 0, .token letter⟩]⟩
    let letters : Parser String (List String) := .many (.rule ⟨1, 0, "letter", 0⟩)
    let skip : Parser String Unit := .token ⟨1, "blank", fun _ => some ()⟩
    let tokens : TokenSequence := ⟨#[⟨0, "letter", "x", .ofOffsets 0 1⟩,
      ⟨0, "letter", "a", .ofOffsets 1 2⟩, ⟨1, "blank", " ", .ofOffsets 2 3⟩,
      ⟨0, "letter", "b", .ofOffsets 3 4⟩, ⟨0, "letter", "y", .ofOffsets 4 5⟩], 5⟩
    let tokens' : TokenSequence := ⟨#[⟨0, "letter", "a", .ofOffsets 0 1⟩,
      ⟨1, "blank", " ", .ofOffsets 1 2⟩, ⟨0, "letter", "b", .ofOffsets 2 3⟩], 3⟩
    let among : Session String := ⟨grammar, tokens⟩
    let alone : Session String := ⟨grammar, tokens'⟩
    letters.Halts (Setting.new tokens 4 grammar (some skip)) 1 ∧
      (alone.run letters 0 3 (some skip)).value = ⟨some ["a", "b"], 3, 3⟩ ∧
      Match.Shifted 1 0 (among.run letters 1 4 (some skip)).value ⟨some ["a", "b"], 3, 3⟩ := by
  intro letter grammar letters skip tokens tokens' among alone
  have hhalts : letters.Halts (Setting.new tokens 4 grammar (some skip)) 1 := ⟨8, by decide⟩
  have hgrammar : grammar.IsLibrary := by
    rintro rule (_ | ⟨_, ⟨⟩⟩)
    trivial
  have hskip : skip.IsLibrary := trivial
  have halike : ∀ index < 3, ∃ token token', tokens.get? (1 + index) = some token ∧
      tokens'.get? (0 + index) = some token' ∧ token.Alike token' := by
    intro index hindex
    obtain rfl | rfl | rfl : index = 0 ∨ index = 1 ∨ index = 2 := by omega
    all_goals exact ⟨_, _, rfl, rfl, rfl, rfl⟩
  have hwindow := run_depends_on_window grammar letters (some skip) hgrammar trivial
    (fun _ => hskip.of_some_eq) tokens tokens' 1 4 0 3 (by decide) (by decide) (by decide)
    (by decide) rfl halike
  have halone : (alone.run letters 0 3 (some skip)).value = ⟨some ["a", "b"], 3, 3⟩ := by rfl
  refine ⟨hhalts, halone, ?_⟩
  rw [← halone]
  exact hwindow.2.1 hhalts

end Session

end TokenGrammar
