import TokenGrammar.Proofs.Parser.Answer

/-!
# Passing over single tokens

A skip parser that takes one token of a kind at a time passes over all tokens of that kind. It also
tries the first token that it does not pass over, and so refuses it, which shows in the furthest
position.
-/

namespace TokenGrammar

namespace Setting

variable {ρ : Nat → Type}

def visible (setting : Setting ρ) : List Token :=
  setting.tokens.tokens.toList.take setting.finish

theorem tokenAt_eq_getElem? (setting : Setting ρ) (cursor : Nat) :
    setting.tokenAt cursor = setting.visible[cursor]? := by
  rw [tokenAt, visible, List.getElem?_take, TokenSequence.get?, Array.getElem?_toList]

theorem visible_new {tokens : TokenSequence} {finish : Nat} (hfinish : finish ≤ tokens.size)
    (grammar : Grammar (RuleBody ρ)) (skip? : Option (Parser ρ Unit)) :
    (new tokens finish grammar skip?).visible = tokens.tokens.toList.take finish := by
  rw [visible, new, Nat.min_eq_left hfinish]

theorem visible_new_size (tokens : TokenSequence) (grammar : Grammar (RuleBody ρ))
    (skip? : Option (Parser ρ Unit)) :
    (new tokens tokens.size grammar skip?).visible = tokens.tokens.toList := by
  rw [visible_new (Nat.le_refl tokens.size)]
  exact List.take_length

/-- The skip parser takes a token that is passed over and nothing else. -/
def PassesOver (setting : Setting ρ) (passed : Token → Bool) : Prop :=
  ∃ skip, setting.skip? = some skip ∧ ∃ least, ∀ fuel, least ≤ fuel → ∀ cursor,
    (∀ token, setting.visible[cursor]? = some token → passed token = true →
      (skip.run fuel setting.withoutSkip cursor).Gives (.matched () (cursor + 1)) 0) ∧
    ((∀ token, setting.visible[cursor]? = some token → passed token = false) →
      (skip.run fuel setting.withoutSkip cursor).Gives .failed cursor)

theorem PassesOver.congr {setting : Setting ρ} {passed passed' : Token → Bool}
    (hpasses : setting.PassesOver passed)
    (hsame : ∀ token ∈ setting.visible, passed' token = passed token) :
    setting.PassesOver passed' := by
  obtain ⟨skip, hskip, least, hruns⟩ := hpasses
  refine ⟨skip, hskip, least, fun fuel hfuel cursor => ?_⟩
  obtain ⟨htakes, hrefuses⟩ := hruns fuel hfuel cursor
  refine ⟨fun token htoken hpassed => ?_, fun hnone => ?_⟩
  · rw [hsame token (List.mem_of_getElem? htoken)] at hpassed
    exact htakes token htoken hpassed
  · refine hrefuses fun token htoken => ?_
    rw [← hsame token (List.mem_of_getElem? htoken)]
    exact hnone token htoken

/-- With enough fuel, skipping from the cursor leads to the position, with a reach of its own. -/
def Lands (setting : Setting ρ) (cursor position reach : Nat) : Prop :=
  ∃ least, ∀ fuel, least ≤ fuel →
    (Parser.skipFrom fuel setting cursor).Gives (.matched () position) reach

theorem lands_of_none {setting : Setting ρ} (hskip : setting.skip? = none) (cursor : Nat) :
    setting.Lands cursor cursor 0 := by
  refine ⟨0, fun fuel _ => ?_⟩
  rw [Parser.skipFrom_of_none hskip]
  exact .matched () cursor

end Setting

namespace Parser

variable {ρ : Nat → Type} {α : Type} {setting : Setting ρ} {cursor : Nat}

theorem take_gives_matched {wanted : Primitive α} {token : Token} {value : α}
    (htoken : setting.visible[cursor]? = some token) (hdecode : wanted.decode token = some value) :
    (take setting wanted cursor).Gives (.matched value (cursor + 1)) 0 := by
  rw [← Setting.tokenAt_eq_getElem?] at htoken
  simp only [take, htoken, hdecode]
  exact (Attempt.Gives.matched value (cursor + 1)).after _

theorem take_gives_failed {wanted : Primitive α}
    (hnone : ∀ token, setting.visible[cursor]? = some token → wanted.decode token = none) :
    (take setting wanted cursor).Gives .failed cursor := by
  rw [take]
  cases htoken : setting.tokenAt cursor with
  | none => exact .refused cursor
  | some token =>
    simp only [hnone token (by rw [← htoken, Setting.tokenAt_eq_getElem?])]
    exact .refused cursor

theorem decode_token_eq (kind : Kind α) (token : Token) :
    (⟨kind, none⟩ : Primitive α).decode token = kind.decode token := by
  simp only [Primitive.decode, Primitive.accepts, Option.all_none, Bool.and_true]
  split
  · rfl
  · next h => simp only [Kind.decode, h, Bool.false_eq_true, if_false]

/-- A skip parser that takes a single token: a primitive, with its value or without. -/
inductive TakesOne : Parser ρ Unit → (Token → Bool) → Prop where
  | primitive (wanted : Primitive Unit) :
      TakesOne (.primitive wanted) fun token => (wanted.decode token).isSome
  | discard {α : Type} (wanted : Primitive α) :
      TakesOne (.discard (.primitive wanted)) fun token => (wanted.decode token).isSome

theorem TakesOne.passesOver {skip : Parser ρ Unit} {passed : Token → Bool}
    (htakes : skip.TakesOne passed) (hskip : setting.skip? = some skip) :
    setting.PassesOver passed := by
  cases htakes with
  | primitive wanted =>
    refine ⟨_, hskip, 1, fun fuel hfuel cursor => ?_⟩
    obtain ⟨fuel, rfl⟩ : ∃ n, fuel = n + 1 := ⟨fuel - 1, by omega⟩
    rw [run_primitive_of_none rfl]
    refine ⟨fun token htoken hsome => ?_, fun hnone => ?_⟩
    · obtain ⟨⟨⟩, hdecode⟩ := Option.isSome_iff_exists.1 hsome
      exact take_gives_matched htoken hdecode
    · exact take_gives_failed fun token htoken => Option.not_isSome_iff_eq_none.1
        (Bool.eq_false_iff.1 (hnone token htoken))
  | discard wanted =>
    refine ⟨_, hskip, 2, fun fuel hfuel cursor => ?_⟩
    obtain ⟨fuel, rfl⟩ : ∃ n, fuel = n + 1 + 1 := ⟨fuel - 2, by omega⟩
    rw [run_discard, run_primitive_of_none rfl]
    refine ⟨fun token htoken hsome => ?_, fun hnone => ?_⟩
    · obtain ⟨value, hdecode⟩ := Option.isSome_iff_exists.1 hsome
      have htaken : (take setting.withoutSkip wanted cursor).Gives (.matched value (cursor + 1))
          0 := take_gives_matched htoken hdecode
      exact htaken.map _
    · have hrefused : (take setting.withoutSkip wanted cursor).Gives .failed cursor :=
        take_gives_failed fun token htoken => Option.not_isSome_iff_eq_none.1
          (Bool.eq_false_iff.1 (hnone token htoken))
      exact hrefused.map _

theorem isSome_decode_token {kind : Kind α} {token : Token}
    (hread : kind.accepts token = true → (kind.read token.text).isSome = true) :
    kind.accepts token = ((⟨kind, none⟩ : Primitive α).decode token).isSome := by
  rw [decode_token_eq, Kind.decode]
  split
  · next haccepts => rw [hread haccepts, haccepts]
  · next hrejects => rw [Bool.eq_false_iff.2 hrejects, Option.isSome_none]

theorem passesOver_token (kind : Kind Unit) (hskip : setting.skip? = some (.token kind))
    (hread : ∀ token ∈ setting.visible, kind.accepts token = true →
      (kind.read token.text).isSome = true) :
    setting.PassesOver kind.accepts :=
  ((TakesOne.primitive ⟨kind, none⟩).passesOver hskip).congr fun token htoken =>
    isSome_decode_token (hread token htoken)

theorem passesOver_discard_token (kind : Kind α)
    (hskip : setting.skip? = some (.discard (.token kind)))
    (hread : ∀ token ∈ setting.visible, kind.accepts token = true →
      (kind.read token.text).isSome = true) :
    setting.PassesOver kind.accepts :=
  ((TakesOne.discard ⟨kind, none⟩).passesOver hskip).congr fun token htoken =>
    isSome_decode_token (hread token htoken)

section PassesOver

variable {passed : Token → Bool}

/-- **Skipping** leads to the next significant token and refuses it. -/
theorem skipFrom_gives (hpasses : setting.PassesOver passed) :
    ∃ least, ∀ fuel, least ≤ fuel → ∀ cursor,
      (skipFrom fuel setting cursor).Gives (.matched () (settle passed setting.visible cursor))
        (settle passed setting.visible cursor) := by
  obtain ⟨skip, hskip, least, hstep⟩ := hpasses
  refine ⟨max least (setting.visible.length + 1), fun fuel hfuel cursor => ?_⟩
  rw [skipFrom_of_some hskip]
  have hrun := hstep fuel (by omega)
  -- Rounds are counted down separately from the fuel of each round.
  have hchain : ∀ cursor rounds, 0 < rounds → setting.visible.length < cursor + rounds →
      (Attempt.chain (skip.run fuel setting.withoutSkip) rounds cursor).Gives
        (.matched () (settle passed setting.visible cursor))
        (settle passed setting.visible cursor) := by
    intro cursor
    induction cursor using settle_induction passed setting.visible with
    | stay cursor hstay =>
      intro rounds hpos _
      obtain ⟨rounds, rfl⟩ : ∃ n, rounds = n + 1 := ⟨rounds - 1, by omega⟩
      rw [settle_of_not_passed hstay]
      refine Attempt.Gives.congr_reach ?_ (Nat.max_zero cursor)
      exact ((hrun cursor).2 hstay).resume_of_failed (.matched () cursor)
    | pass cursor token htoken hpassed ih =>
      intro rounds hpos hrounds
      obtain ⟨hlt, -⟩ := List.getElem?_eq_some_iff.1 htoken
      obtain ⟨rounds, rfl⟩ : ∃ n, rounds = n + 1 := ⟨rounds - 1, by omega⟩
      rw [settle_of_passed htoken hpassed]
      refine Attempt.Gives.congr_reach ?_ (Nat.zero_max _)
      refine ((hrun cursor).1 token htoken hpassed).resume_of_matched ?_
      rw [if_pos (Nat.lt_succ_self cursor)]
      exact ih rounds (by omega) (by omega)
  exact hchain cursor fuel (by omega) (by omega)

theorem lands_settle (hpasses : setting.PassesOver passed) (cursor : Nat) :
    setting.Lands cursor (settle passed setting.visible cursor)
      (settle passed setting.visible cursor) := by
  obtain ⟨least, hgives⟩ := skipFrom_gives hpasses
  exact ⟨least, fun fuel hfuel => hgives fuel hfuel cursor⟩

end PassesOver

section Lands

variable {wanted : Primitive α} {position reach : Nat}

theorem Answers.primitive (hlands : setting.Lands cursor position reach) {token : Token} {value : α}
    (htoken : setting.visible[position]? = some token)
    (hdecode : wanted.decode token = some value) :
    (primitive wanted).Answers setting cursor (.matched value (position + 1)) reach := by
  obtain ⟨least, hskip⟩ := hlands
  refine of_succ least fun fuel hfuel => ?_
  rw [run_primitive]
  refine Attempt.Gives.congr_reach ?_ (Nat.max_zero _)
  exact (hskip fuel hfuel).andThen (take_gives_matched htoken hdecode)

theorem Answers.primitive_of_failed (hlands : setting.Lands cursor position reach)
    (hnone : ∀ token, setting.visible[position]? = some token → wanted.decode token = none) :
    (Parser.primitive wanted).Answers setting cursor .failed (max reach position) := by
  obtain ⟨least, hskip⟩ := hlands
  refine of_succ least fun fuel hfuel => ?_
  rw [run_primitive]
  exact (hskip fuel hfuel).andThen (take_gives_failed hnone)

end Lands

end Parser

end TokenGrammar
