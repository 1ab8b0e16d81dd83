import TokenGrammar.Token.Basic

/-!
# Significant tokens

Some tokens of a sequence may be passed over and the others are significant. Passing over leads from
a cursor to the next significant token, and counting the significant tokens before a cursor gives
the cursor in the sequence without the others.
-/

namespace TokenGrammar

variable (passed : Token → Bool) (tokens : List Token)

def settle (cursor : Nat) : Nat := cursor + ((tokens.drop cursor).takeWhile passed).length

def significant : List Token := tokens.filter fun token => !passed token

def significantBetween (start stop : Nat) : List Token :=
  significant passed ((tokens.take stop).drop start)

/-- How many significant tokens lie before a cursor. -/
def rank (cursor : Nat) : Nat := (significant passed (tokens.take cursor)).length

variable {passed tokens} {cursor start middle stop : Nat} {token : Token}

/-! ### Passing over -/

variable (passed tokens) in
theorem le_settle (cursor : Nat) : cursor ≤ settle passed tokens cursor :=
  Nat.le_add_right _ _

theorem settle_of_passed (htoken : tokens[cursor]? = some token) (hpassed : passed token = true) :
    settle passed tokens cursor = settle passed tokens (cursor + 1) := by
  obtain ⟨hlt, rfl⟩ := List.getElem?_eq_some_iff.1 htoken
  simp only [settle]
  rw [List.drop_eq_getElem_cons hlt, List.takeWhile_cons_of_pos hpassed, List.length_cons]
  omega

theorem settle_of_not_passed (h : ∀ token, tokens[cursor]? = some token → passed token = false) :
    settle passed tokens cursor = cursor := by
  by_cases hlt : cursor < tokens.length
  · have hhead := h tokens[cursor] (List.getElem?_eq_getElem hlt)
    rw [settle, List.drop_eq_getElem_cons hlt, List.takeWhile_cons_of_neg (by simp [hhead])]
    rfl
  · rw [settle, List.drop_eq_nil_of_le (Nat.le_of_not_lt hlt)]
    rfl

variable (passed tokens) in
/-- Induction along the tokens passed over. -/
theorem settle_induction {motive : Nat → Prop}
    (stay : ∀ cursor, (∀ token, tokens[cursor]? = some token → passed token = false) →
      motive cursor)
    (pass : ∀ cursor token, tokens[cursor]? = some token → passed token = true →
      motive (cursor + 1) → motive cursor) (cursor : Nat) : motive cursor := by
  by_cases hpassed : ∃ token, tokens[cursor]? = some token ∧ passed token = true
  · obtain ⟨token, htoken, hpassed⟩ := hpassed
    obtain ⟨hlt, -⟩ := List.getElem?_eq_some_iff.1 htoken
    exact pass cursor token htoken hpassed (settle_induction stay pass (cursor + 1))
  · refine stay cursor fun token htoken => ?_
    rw [← Bool.not_eq_true]
    exact fun h => hpassed ⟨token, htoken, h⟩
termination_by tokens.length - cursor

theorem settle_le_length (hcursor : cursor ≤ tokens.length) :
    settle passed tokens cursor ≤ tokens.length := by
  induction cursor using settle_induction passed tokens with
  | stay cursor hstay => rwa [settle_of_not_passed hstay]
  | pass cursor token htoken hpassed ih =>
    obtain ⟨hlt, -⟩ := List.getElem?_eq_some_iff.1 htoken
    rw [settle_of_passed htoken hpassed]
    exact ih hlt

theorem not_passed_settle (cursor : Nat) (token : Token)
    (htoken : tokens[settle passed tokens cursor]? = some token) : passed token = false := by
  induction cursor using settle_induction passed tokens with
  | stay cursor hstay =>
    rw [settle_of_not_passed hstay] at htoken
    exact hstay token htoken
  | pass cursor other hother hpassed ih =>
    rw [settle_of_passed hother hpassed] at htoken
    exact ih htoken

theorem settle_settle (cursor : Nat) :
    settle passed tokens (settle passed tokens cursor) = settle passed tokens cursor :=
  settle_of_not_passed (not_passed_settle cursor)

theorem settle_le (hle : cursor ≤ stop) (hstop : settle passed tokens stop = stop) :
    settle passed tokens cursor ≤ stop := by
  induction cursor using settle_induction passed tokens with
  | stay cursor hstay => rwa [settle_of_not_passed hstay]
  | pass cursor token htoken hpassed ih =>
    rw [settle_of_passed htoken hpassed]
    refine ih (Nat.lt_of_le_of_ne hle ?_)
    rintro rfl
    have hle := le_settle passed tokens (cursor + 1)
    rw [settle_of_passed htoken hpassed] at hstop
    omega

/-! ### Significant tokens between cursors -/

theorem significant_append (left right : List Token) :
    significant passed (left ++ right) = significant passed left ++ significant passed right :=
  List.filter_append ..

theorem significantBetween_append (hstart : start ≤ middle) (hstop : middle ≤ stop) :
    significantBetween passed tokens start middle ++ significantBetween passed tokens middle stop =
      significantBetween passed tokens start stop := by
  simp only [significantBetween]
  rw [← significant_append]
  congr 1
  have hsplit : (tokens.take stop).drop start =
      ((tokens.take stop).drop start).take (middle - start) ++
        ((tokens.take stop).drop start).drop (middle - start) := (List.take_append_drop ..).symm
  rw [hsplit, List.drop_drop, List.take_drop, List.take_take]
  congr 3 <;> omega

theorem significantBetween_succ (htoken : tokens[cursor]? = some token) :
    significantBetween passed tokens cursor (cursor + 1) =
      if passed token then [] else [token] := by
  obtain ⟨hlt, rfl⟩ := List.getElem?_eq_some_iff.1 htoken
  have hone : (tokens.take (cursor + 1)).drop cursor = [tokens[cursor]] := by
    rw [List.drop_take, Nat.add_sub_cancel_left, List.drop_eq_getElem_cons hlt,
      List.take_succ_cons, List.take_zero]
  simp only [significantBetween, significant, hone]
  cases hpassed : passed tokens[cursor] <;> simp [hpassed]

theorem significantBetween_self (cursor : Nat) :
    significantBetween passed tokens cursor cursor = [] := by
  simp [significantBetween, significant]

theorem significantBetween_settle (cursor : Nat) :
    significantBetween passed tokens cursor (settle passed tokens cursor) = [] := by
  induction cursor using settle_induction passed tokens with
  | stay cursor hstay => rw [settle_of_not_passed hstay, significantBetween_self]
  | pass cursor token htoken hpassed ih =>
    rw [settle_of_passed htoken hpassed,
      ← significantBetween_append (Nat.le_add_right cursor 1) (le_settle passed tokens _), ih,
      significantBetween_succ htoken, if_pos hpassed, List.append_nil]

theorem significantBetween_settle_succ
    (htoken : tokens[settle passed tokens cursor]? = some token) :
    significantBetween passed tokens cursor (settle passed tokens cursor + 1) = [token] := by
  rw [← significantBetween_append (le_settle passed tokens cursor) (Nat.le_add_right _ 1),
    significantBetween_settle, significantBetween_succ htoken,
    not_passed_settle cursor token htoken]
  rfl

/-! ### Ranks -/

theorem rank_eq_length (cursor : Nat) :
    rank passed tokens cursor = (significantBetween passed tokens 0 cursor).length := rfl

theorem rank_add (hle : start ≤ stop) :
    rank passed tokens start + (significantBetween passed tokens start stop).length =
      rank passed tokens stop := by
  rw [rank_eq_length, rank_eq_length, ← significantBetween_append (Nat.zero_le start) hle,
    List.length_append]

theorem rank_take (hle : cursor ≤ stop) :
    rank passed (tokens.take stop) cursor = rank passed tokens cursor := by
  rw [rank, rank, List.take_take, Nat.min_eq_left hle]

theorem rank_le (cursor : Nat) : rank passed tokens cursor ≤ (significant passed tokens).length :=
  ((List.take_sublist cursor tokens).filter _).length_le

theorem rank_settle (cursor : Nat) :
    rank passed tokens (settle passed tokens cursor) = rank passed tokens cursor := by
  rw [← rank_add (le_settle passed tokens cursor), significantBetween_settle]
  rfl

theorem rank_settle_succ (htoken : tokens[settle passed tokens cursor]? = some token) :
    rank passed tokens (settle passed tokens cursor + 1) = rank passed tokens cursor + 1 := by
  rw [← rank_add (Nat.le_succ_of_le (le_settle passed tokens cursor)),
    significantBetween_settle_succ htoken]
  rfl

theorem significantBetween_length (cursor : Nat) :
    significantBetween passed tokens cursor tokens.length =
      significant passed (tokens.drop cursor) := by
  rw [significantBetween, List.take_length]

theorem significant_eq_append (hcursor : cursor ≤ tokens.length) :
    significant passed tokens =
      significantBetween passed tokens 0 cursor ++
        significantBetween passed tokens cursor tokens.length := by
  rw [significantBetween_append (Nat.zero_le cursor) hcursor, significantBetween_length]
  rfl

/-- The first significant token from a cursor on has the rank of the cursor as its place. -/
theorem getElem?_significant_rank (hcursor : cursor ≤ tokens.length) :
    (significant passed tokens)[rank passed tokens cursor]? =
      tokens[settle passed tokens cursor]? := by
  have hsettled : settle passed tokens cursor ≤ tokens.length := settle_le_length hcursor
  rw [significant_eq_append hsettled, ← rank_settle, rank_eq_length,
    List.getElem?_append_right (Nat.le_refl _), Nat.sub_self]
  cases htoken : tokens[settle passed tokens cursor]? with
  | none =>
    have hle := List.getElem?_eq_none_iff.1 htoken
    rw [significantBetween_length, List.drop_eq_nil_of_le hle]
    rfl
  | some token =>
    obtain ⟨hlt, -⟩ := List.getElem?_eq_some_iff.1 htoken
    rw [← significantBetween_append (Nat.le_add_right _ 1) hlt, significantBetween_succ htoken,
      not_passed_settle cursor token htoken]
    rfl

/-- Only tokens to pass over follow a cursor of the highest rank. -/
theorem rank_eq_length_iff (hcursor : cursor ≤ tokens.length) :
    rank passed tokens cursor = (significant passed tokens).length ↔
      settle passed tokens cursor = tokens.length := by
  have hsettled : settle passed tokens cursor ≤ tokens.length := settle_le_length hcursor
  have hget : (significant passed tokens)[rank passed tokens cursor]? =
      tokens[settle passed tokens cursor]? := getElem?_significant_rank hcursor
  constructor
  · intro hrank
    rw [hrank, List.getElem?_eq_none (Nat.le_refl _)] at hget
    exact Nat.le_antisymm hsettled (List.getElem?_eq_none_iff.1 hget.symm)
  · intro hlength
    rw [← rank_settle, hlength, rank, List.take_length]

theorem take_significant_rank (hstop : stop ≤ tokens.length) :
    (significant passed tokens).take (rank passed tokens stop) =
      significant passed (tokens.take stop) := by
  rw [significant_eq_append hstop, rank_eq_length, List.take_left]
  rfl

end TokenGrammar
