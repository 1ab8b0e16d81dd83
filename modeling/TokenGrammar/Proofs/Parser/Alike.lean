import TokenGrammar.Proofs.Parser.Trials
import TokenGrammar.Proofs.Session

/-!
# Two grammars beside each other

The same tokens can be matched under two grammars. Two parsers are alike at a cursor if both fail
there, or both take the same tokens and give the same value, and if neither refuses more than the
other. Combinators keep parsers alike, and so does left factoring: to go on after a common part, or
to read it a second time in the next alternative, comes to the same.
-/

namespace TokenGrammar

namespace Setting

variable {ρ : Nat → Type}

/-- The settings show the same tokens, and skipping does the same in both. -/
structure Parallel (first second : Setting ρ) : Prop where
  visible : second.visible = first.visible
  lands : ∀ cursor, ∃ position reach, cursor ≤ position ∧ first.Lands cursor position reach ∧
    second.Lands cursor position reach

section New

variable (tokens : TokenSequence) (finish : Nat) (grammar grammar' : Grammar (RuleBody ρ))

theorem parallel_none :
    (new tokens finish grammar none).Parallel (new tokens finish grammar' none) :=
  ⟨rfl, fun cursor => ⟨cursor, 0, Nat.le_refl cursor, lands_of_none rfl cursor,
    lands_of_none rfl cursor⟩⟩

theorem parallel_token (kind : Kind Unit) (hread : ∀ text, (kind.read text).isSome = true) :
    (new tokens finish grammar (some (.token kind))).Parallel
      (new tokens finish grammar' (some (.token kind))) := by
  have hpasses : ∀ grammar : Grammar (RuleBody ρ),
      (new tokens finish grammar (some (.token kind))).PassesOver kind.accepts :=
    fun grammar => Parser.passesOver_token kind rfl fun token _ _ => hread token.text
  exact ⟨rfl, fun cursor => ⟨_, _, le_settle _ _ cursor,
    Parser.lands_settle (hpasses grammar) cursor, Parser.lands_settle (hpasses grammar') cursor⟩⟩

end New

end Setting

namespace Parser

variable {ρ : Nat → Type} {α β γ δ : Type} {first second : Setting ρ} {cursor : Nat}

/-- The two parsers do the same at the cursor, each in its setting, and do not match nothing. -/
inductive Alike (first second : Setting ρ) (left right : Parser ρ α) (cursor : Nat) : Prop where
  | failed {reach : Nat} (hleft : left.Answers first cursor .failed reach)
      (hright : right.Answers second cursor .failed reach) : Alike first second left right cursor
  | matched {value : α} {next reach : Nat} (hlt : cursor < next)
      (hle : next ≤ first.visible.length)
      (hleft : left.Answers first cursor (.matched value next) reach)
      (hright : right.Answers second cursor (.matched value next) reach) :
      Alike first second left right cursor

namespace Alike

theorem exists_answers {left right : Parser ρ α} (h : Alike first second left right cursor) :
    ∃ outcome reach, left.Answers first cursor outcome reach ∧
      right.Answers second cursor outcome reach ∧ outcome ≠ .exhausted := by
  cases h with
  | failed hleft hright => exact ⟨_, _, hleft, hright, nofun⟩
  | matched _ _ hleft hright => exact ⟨_, _, hleft, hright, nofun⟩

theorem primitive (hparallel : first.Parallel second) (wanted : Primitive α) (cursor : Nat) :
    Alike first second (.primitive wanted) (.primitive wanted) cursor := by
  obtain ⟨position, reach, hle, hfirst, hsecond⟩ := hparallel.lands cursor
  cases hdecode : first.visible[position]?.bind wanted.decode with
  | some value =>
    obtain ⟨token, htoken, hvalue⟩ := Option.bind_eq_some_iff.1 hdecode
    obtain ⟨hlt, -⟩ := List.getElem?_eq_some_iff.1 htoken
    exact .matched (by omega) hlt (.primitive hfirst htoken hvalue)
      (.primitive hsecond (hparallel.visible ▸ htoken) hvalue)
  | none =>
    have hnone := Option.bind_eq_none_iff.1 hdecode
    exact .failed (.primitive_of_failed hfirst hnone)
      (.primitive_of_failed hsecond (hparallel.visible ▸ hnone))

section Combinators

variable {left right left' right' : Parser ρ α} {next next' : Parser ρ β}

theorem map (f : α → β) (h : Alike first second left right cursor) :
    Alike first second (.map f left) (.map f right) cursor := by
  cases h with
  | failed hleft hright => exact .failed (hleft.map f) (hright.map f)
  | matched hlt hle hleft hright => exact .matched hlt hle (hleft.map f) (hright.map f)

theorem alt (h : Alike first second left right cursor)
    (h' : Alike first second left' right' cursor) :
    Alike first second (.alt left left') (.alt right right') cursor := by
  cases h with
  | matched hlt hle hleft hright => exact .matched hlt hle (hleft.alt left') (hright.alt right')
  | failed hleft hright =>
    cases h' with
    | failed hleft' hright' =>
      exact .failed (hleft.alt_of_failed hleft') (hright.alt_of_failed hright')
    | matched hlt hle hleft' hright' =>
      exact .matched hlt hle (hleft.alt_of_failed hleft') (hright.alt_of_failed hright')

theorem ignoreThen (h : Alike first second left right cursor)
    (h' : ∀ middle, cursor < middle → middle ≤ first.visible.length →
      Alike first second next next' middle) :
    Alike first second (.ignoreThen left next) (.ignoreThen right next') cursor := by
  cases h with
  | failed hleft hright =>
    exact .failed (hleft.ignoreThen_of_failed next) (hright.ignoreThen_of_failed next')
  | @matched _ middle _ hmiddle hle hleft hright =>
    cases h' middle hmiddle hle with
    | failed hnext hnext' => exact .failed (hleft.ignoreThen hnext) (hright.ignoreThen hnext')
    | matched hlt hle hnext hnext' =>
      exact .matched (hmiddle.trans hlt) hle (hleft.ignoreThen hnext) (hright.ignoreThen hnext')

theorem thenIgnore (h : Alike first second left right cursor)
    (h' : ∀ middle, cursor < middle → middle ≤ first.visible.length →
      Alike first second next next' middle) :
    Alike first second (.thenIgnore left next) (.thenIgnore right next') cursor := by
  cases h with
  | failed hleft hright =>
    exact .failed (hleft.thenIgnore_of_failed next) (hright.thenIgnore_of_failed next')
  | @matched _ middle _ hmiddle hle hleft hright =>
    cases h' middle hmiddle hle with
    | failed hnext hnext' => exact .failed (hleft.thenIgnore hnext) (hright.thenIgnore hnext')
    | matched hlt hle hnext hnext' =>
      exact .matched (hmiddle.trans hlt) hle (hleft.thenIgnore hnext) (hright.thenIgnore hnext')

/-- Where all rules give values of one type. -/
theorem rule {κ : Type} {first second : Setting fun _ => κ} {handle handle' : Rule}
    {body body' : Parser (fun _ => κ) κ} (hbody : first.grammar.body? handle = some body)
    (hbody' : second.grammar.body? handle' = some body')
    (h : Alike first second body body' cursor) :
    Alike first second (.rule handle) (.rule handle') cursor := by
  cases h with
  | failed hleft hright => exact .failed (hleft.rule hbody) (hright.rule hbody')
  | matched hlt hle hleft hright => exact .matched hlt hle (hleft.rule hbody) (hright.rule hbody')

end Combinators

section Factor

variable {part part' : Parser ρ α} {link link' : Parser ρ β} {rest rest' : Parser ρ γ}
  {join : α × Option (β × γ) → α} {combine : (α × β) × γ → α} {whole : Parser ρ α}

/-- **Left factoring.** The part is read once and perhaps continued; or it is read for the whole,
and again by itself where the whole fails. The second reading finds and refuses what the first one
did. -/
theorem factor (hnone : ∀ a, join (a, none) = a)
    (hsome : ∀ a b c, join (a, some (b, c)) = combine ((a, b), c))
    (hwhole : ∀ outcome reach,
      (Parser.map combine (.seq (.seq part' link') rest')).Answers second cursor outcome reach →
        whole.Answers second cursor outcome reach)
    (hpart : Alike first second part part' cursor)
    (hlink : ∀ middle, cursor < middle → middle ≤ first.visible.length →
      Alike first second link link' middle)
    (hrest : ∀ middle, cursor < middle → middle ≤ first.visible.length →
      Alike first second rest rest' middle) :
    Alike first second (.map join (.seq part (.optional (.seq link rest)))) (.alt whole part')
      cursor := by
  cases hpart with
  | failed hleft hright =>
    have hfails := hwhole _ _ (((hright.seq_of_failed link').seq_of_failed rest').map combine)
    refine .failed ((hleft.seq_of_failed _).map join) ?_
    exact (hfails.alt_of_failed hright).congr_reach (Nat.max_self _)
  | @matched a middle reach hmiddle hle hleft hright =>
    -- Wherever the continuation breaks off, the part by itself is left.
    have hgivesUp : ∀ {reach'}, (Parser.seq link rest).Answers first middle .failed reach' →
        (Parser.seq (.seq part' link') rest').Answers second cursor .failed (max reach reach') →
        Alike first second (.map join (.seq part (.optional (.seq link rest)))) (.alt whole part')
          cursor := by
      intro reach' htail hall
      have hfactored := (hleft.seq htail.optional_of_failed).map join
      simp only [Outcome.map, hnone] at hfactored
      have hagain := (hwhole _ _ (hall.map combine)).alt_of_failed hright
      exact .matched hmiddle hle hfactored (hagain.congr_reach (by omega))
    cases hlink middle hmiddle hle with
    | failed hlink hlink' =>
      exact hgivesUp (hlink.seq_of_failed rest) ((hright.seq hlink').seq_of_failed rest')
    | @matched b stop reach' hstop hle' hlink hlink' =>
      cases hrest stop (hmiddle.trans hstop) hle' with
      | failed hrest hrest' =>
        refine hgivesUp (hlink.seq hrest) ?_
        exact ((hright.seq hlink').seq hrest').congr_reach (Nat.max_assoc _ _ _)
      | @matched c finish _ hfinish hle'' hrest hrest' =>
        have hfactored := (hleft.seq (hlink.seq hrest).optional).map join
        simp only [Outcome.map, hsome] at hfactored
        have hall := hwhole _ _ (((hright.seq hlink').seq hrest').map combine)
        have hlt : cursor < finish := by omega
        exact .matched hlt hle'' hfactored
          ((hall.alt part').congr_reach (Nat.max_assoc _ _ _))

end Factor

end Alike

end Parser

namespace Session

variable {ρ : Nat → Type} {α : Type} {tokens : TokenSequence}
  {grammar grammar' : Grammar (RuleBody ρ)}
  {left right : Parser ρ α} {skip? : Option (Parser ρ Unit)}

section Alike

variable (hgrammar : grammar.IsLibrary) (hgrammar' : grammar'.IsLibrary) (hleft : left.IsLibrary)
  (hright : right.IsLibrary) (hskip : ∀ skip, skip? = some skip → skip.IsLibrary)

include hgrammar hgrammar' hleft hright hskip

/-- Both runs end, and with the same match. -/
theorem run_eq_of_alike {start finish : Nat}
    (halike : Parser.Alike (Setting.new tokens finish grammar skip?)
      (Setting.new tokens finish grammar' skip?) left right start) :
    Ends ⟨grammar, tokens⟩ left start finish skip? ∧
      Ends ⟨grammar', tokens⟩ right start finish skip? ∧
        (run ⟨grammar, tokens⟩ left start finish skip?).value =
          (run ⟨grammar', tokens⟩ right start finish skip?).value := by
  obtain ⟨outcome, reach, hanswers, hanswers', hne⟩ := halike.exists_answers
  refine ⟨ends_of_answers hgrammar hleft hskip hanswers hne,
    ends_of_answers hgrammar' hright hskip hanswers' hne, ?_⟩
  rw [run_value_of_answers hgrammar hleft hskip hanswers hne,
    run_value_of_answers hgrammar' hright hskip hanswers' hne]

/-- Matching all tokens ends under both grammars, and with the same verdict. -/
theorem parseAll_eq_of_alike
    (hparallel : (Setting.new tokens tokens.size grammar skip?).Parallel
      (Setting.new tokens tokens.size grammar' skip?))
    (halike : Parser.Alike (Setting.new tokens tokens.size grammar skip?)
      (Setting.new tokens tokens.size grammar' skip?) left right 0) :
    EndsAll ⟨grammar, tokens⟩ left skip? ∧ EndsAll ⟨grammar', tokens⟩ right skip? ∧
      (parseAll ⟨grammar, tokens⟩ left skip?).value =
        (parseAll ⟨grammar', tokens⟩ right skip?).value := by
  cases halike with
  | failed hanswers hanswers' =>
    refine ⟨endsAll_of_answers_failed hgrammar hleft hskip hanswers,
      endsAll_of_answers_failed hgrammar' hright hskip hanswers', ?_⟩
    rw [parseAll_value_of_answers_failed hgrammar hleft hskip hanswers,
      parseAll_value_of_answers_failed hgrammar' hright hskip hanswers']
  | @matched value next reach _ _ hanswers hanswers' =>
    obtain ⟨rest, reach', -, hlands, hlands'⟩ := hparallel.lands next
    refine ⟨endsAll_of_lands hgrammar hleft hskip hanswers hlands,
      endsAll_of_lands hgrammar' hright hskip hanswers' hlands', ?_⟩
    rw [parseAll_value_of_lands hgrammar hleft hskip hanswers hlands,
      parseAll_value_of_lands hgrammar' hright hskip hanswers' hlands']

end Alike

end Session

end TokenGrammar
