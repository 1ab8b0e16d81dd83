import TokenGrammar.Proofs.Pattern.Reach

/-!
# How much a pattern takes

A set takes one member, and a greedy repetition of it takes members for as long as there are any. A
measure says for every text how many characters the preferred match takes, where zero stands for no
match at all.
-/

namespace TokenGrammar

theorem Place.lt_after (place : Place) (c : Char) (rest : List Char) :
    place.index < (place.after c rest).index :=
  Nat.lt_succ_self place.index

namespace Pattern

/-- How many members the text begins with. -/
def runLength (members : CharSet) (text : List Char) : Nat :=
  (text.takeWhile members.contains).length

def headLength (members : CharSet) : List Char → Nat
  | [] => 0
  | c :: _ => if members.contains c = true then 1 else 0

/-- A member, and then what is measured. -/
def consLength (members : CharSet) (length : List Char → Nat) : List Char → Nat
  | [] => 0
  | c :: rest => if members.contains c = true ∧ length rest ≠ 0 then length rest + 1 else 0

/-- The preferred end of a match lies as many characters ahead as the measure says. -/
def Measures (pattern : Pattern) (length : List Char → Nat) : Prop :=
  ∀ place, (pattern.ends place).head?.map Place.index =
    if length place.rest = 0 then none else some (place.index + length place.rest)

section Set

variable {members : CharSet} {c : Char} {place : Place} {rest : List Char}

theorem ends_set_nil (members : CharSet) (hrest : place.rest = []) :
    (set members).ends place = [] := by
  rw [ends]
  simp only [hrest]

theorem ends_set_of_member (hrest : place.rest = c :: rest) (hmember : members.contains c = true) :
    (set members).ends place = [place.after c rest] := by
  rw [ends]
  simp only [hrest, hmember, if_true]

theorem ends_set_of_not_member (hrest : place.rest = c :: rest)
    (hmember : members.contains c = false) : (set members).ends place = [] := by
  rw [ends]
  simp only [hrest, hmember, Bool.false_eq_true, if_false]

theorem runLength_of_member (hmember : members.contains c = true) (rest : List Char) :
    runLength members (c :: rest) = runLength members rest + 1 := by
  rw [runLength, List.takeWhile_cons_of_pos hmember]
  rfl

theorem runLength_of_not_member (hmember : members.contains c = false) (rest : List Char) :
    runLength members (c :: rest) = 0 := by
  rw [runLength, List.takeWhile_cons_of_neg (by simp [hmember])]
  rfl

/-- The members in front, up to a character that is none. -/
theorem runLength_append {run : List Char} (hrun : ∀ c ∈ run, members.contains c = true)
    (hrest : ∀ c, rest.head? = some c → members.contains c = false) :
    runLength members (run ++ rest) = run.length := by
  induction run with
  | nil =>
    cases rest with
    | nil => rfl
    | cons c rest => exact runLength_of_not_member (hrest c rfl) rest
  | cons c run ih =>
    obtain ⟨hmember, hrun⟩ := List.forall_mem_cons.1 hrun
    rw [List.cons_append, runLength_of_member hmember, ih hrun, List.length_cons]

theorem runLength_le (members : CharSet) (text : List Char) :
    runLength members text ≤ text.length :=
  (List.takeWhile_prefix _).length_le

/-- Going on from a place, the last one visited is where the members end. -/
theorem getLast?_visit_set {fuel : Nat} (hfuel : runLength members place.rest < fuel) :
    (((set members).ends.visit true fuel place []).getLast?).map Place.index =
      some (place.index + runLength members place.rest) := by
  induction fuel generalizing place with
  | zero => exact absurd hfuel (Nat.not_lt_zero _)
  | succ fuel ih =>
    have hmem : place.mem [] = false := rfl
    rw [Ends.visit, hmem]
    simp only [Bool.false_eq_true, if_false, if_true]
    cases hrest : place.rest with
    | nil =>
      rw [ends_set_nil members hrest]
      rfl
    | cons c rest =>
      cases hmember : members.contains c with
      | false =>
        rw [ends_set_of_not_member hrest hmember, runLength_of_not_member hmember]
        rfl
      | true =>
        -- A greedy visit lists the place before those further on, so the last one stays the last.
        rw [hrest, runLength_of_member hmember] at hfuel
        let next := place.after c rest
        have hnext : (((set members).ends.visit true fuel next []).getLast?).map Place.index =
            some (place.index + 1 + runLength members rest) := ih (Nat.lt_of_succ_lt_succ hfuel)
        rw [ends_set_of_member hrest hmember, runLength_of_member hmember, List.foldl_cons,
          List.foldl_nil, if_pos (place.lt_after c rest)]
        obtain ⟨last, hlast, hindex⟩ := Option.map_eq_some_iff.1 hnext
        rw [List.getLast?_cons, hlast, Option.getD_some, Option.map_some, hindex]
        congr 1
        omega

end Set

section Cons

variable {members : CharSet} {length : List Char → Nat} {text : List Char}

theorem consLength_of_head (h : ∀ c, text.head? = some c → members.contains c = false) :
    consLength members length text = 0 := by
  cases text with
  | nil => rfl
  | cons c rest => simp [consLength, h c rfl]

theorem consLength_of_rest {c : Char} (h : length text = 0) :
    consLength members length (c :: text) = 0 := by
  simp [consLength, h]

end Cons

/-! ### Measures -/

variable {pattern : Pattern} {length : List Char → Nat}

theorem measures_set (members : CharSet) : (set members).Measures (headLength members) := by
  intro place
  cases hrest : place.rest with
  | nil =>
    rw [ends_set_nil members hrest]
    rfl
  | cons c rest =>
    cases hmember : members.contains c with
    | false =>
      rw [ends_set_of_not_member hrest hmember]
      simp [headLength, hmember]
    | true =>
      rw [ends_set_of_member hrest hmember]
      simp [headLength, hmember, Place.after]

theorem measures_repeated (members : CharSet) :
    (repeated (set members) 1 none true).Measures (runLength members) := by
  intro place
  change ((set members).ends.rounds true place).head?.map Place.index = _
  rw [Ends.rounds, List.head?_reverse]
  cases hrest : place.rest with
  | nil =>
    rw [ends_set_nil members hrest]
    rfl
  | cons c rest =>
    cases hmember : members.contains c with
    | false =>
      rw [ends_set_of_not_member hrest hmember, runLength_of_not_member hmember]
      rfl
    | true =>
      rw [ends_set_of_member hrest hmember, runLength_of_member hmember, List.foldl_cons,
        List.foldl_nil, if_pos (place.lt_after c rest)]
      have hfuel : runLength members (place.after c rest).rest < (c :: rest).length :=
        Nat.lt_succ_of_le (runLength_le members rest)
      rw [getLast?_visit_set hfuel, if_neg (Nat.succ_ne_zero _)]
      simp only [Place.after]
      congr 1
      omega

theorem Measures.cons (h : pattern.Measures length) (members : CharSet) :
    (seq (set members) pattern).Measures (consLength members length) := by
  intro place
  rw [ends]
  cases hrest : place.rest with
  | nil =>
    rw [Ends.andThen_eq_nil (ends_set_nil members hrest)]
    rfl
  | cons c rest =>
    cases hmember : members.contains c with
    | false =>
      rw [Ends.andThen_eq_nil (ends_set_of_not_member hrest hmember)]
      simp [consLength, hmember]
    | true =>
      simp only [Ends.andThen, ends_set_of_member hrest hmember]
      rw [h (place.after c rest)]
      simp only [consLength, hmember, Place.after, true_and]
      by_cases hzero : length rest = 0
      · simp [hzero]
      · simp only [hzero, if_false, ne_eq, not_false_iff, if_true, Nat.succ_ne_zero]
        congr 1
        omega

/-- **Bound to the start of a text**, a pattern takes what its measure says. -/
theorem Measures.find? (h : pattern.Measures length) (text : List Char) :
    ((seq (anchor .textStart) pattern).find? text).map Found.stop =
      if length text = 0 then none else some (length text) := by
  have hstart := h (Place.start text)
  rw [Place.start, Nat.zero_add] at hstart
  rw [Pattern.find?, if_pos (show (seq (anchor .textStart) pattern).anchored = true from rfl),
    findAt?, Option.map_map, ← hstart]
  rfl

end Pattern

end TokenGrammar
