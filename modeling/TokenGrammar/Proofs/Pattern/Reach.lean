import TokenGrammar.Pattern.Search

/-!
# What a match takes

A match leads from its place forward over characters of the text, so it ends inside the text. Sets
and their repetition take members only.
-/

namespace TokenGrammar

structure Place.Passes (taken : List Char) (place next : Place) : Prop where
  rest : place.rest = taken ++ next.rest
  index : next.index = place.index + taken.length

/-- From one place forward to another, over characters that are all admitted. -/
def Place.Reaches (admitted : Char → Prop) (place next : Place) : Prop :=
  ∃ taken, place.Passes taken next ∧ ∀ c ∈ taken, admitted c

namespace Place

variable {admitted : Char → Prop} {place middle next : Place} {taken taken' : List Char}

theorem Passes.refl (place : Place) : place.Passes [] place :=
  ⟨rfl, rfl⟩

theorem Passes.trans (h : place.Passes taken middle) (h' : middle.Passes taken' next) :
    place.Passes (taken ++ taken') next where
  rest := by rw [h.rest, h'.rest, List.append_assoc]
  index := by rw [h'.index, h.index, List.length_append, Nat.add_assoc]

theorem Reaches.refl (place : Place) : place.Reaches admitted place :=
  ⟨[], .refl place, by simp⟩

theorem Reaches.trans (h : place.Reaches admitted middle) (h' : middle.Reaches admitted next) :
    place.Reaches admitted next := by
  obtain ⟨taken, hpasses, hadmitted⟩ := h
  obtain ⟨taken', hpasses', hadmitted'⟩ := h'
  refine ⟨taken ++ taken', hpasses.trans hpasses', fun c hc => ?_⟩
  rcases List.mem_append.1 hc with hc | hc
  · exact hadmitted c hc
  · exact hadmitted' c hc

theorem forall_mem_foldl {P : Place → Prop} {follow : List Place → Place → List Place}
    {seen nexts : List Place} (hseen : ∀ x ∈ seen, P x)
    (hfollow : ∀ seen, ∀ next ∈ nexts, (∀ x ∈ seen, P x) → ∀ x ∈ follow seen next, P x) :
    ∀ x ∈ nexts.foldl follow seen, P x := by
  induction nexts generalizing seen with
  | nil => exact hseen
  | cons next rest ih =>
    refine ih (hfollow seen next (by simp) hseen) fun seen other hother => ?_
    exact hfollow seen other (List.mem_cons_of_mem next hother)

theorem mem_of_mem_distinct {places : List Place} (h : place ∈ distinct places) :
    place ∈ places := by
  refine forall_mem_foldl (by simp) (fun seen next hnext hseen => ?_) place (List.mem_reverse.1 h)
  split
  · exact hseen
  · exact List.forall_mem_cons.2 ⟨hnext, hseen⟩

end Place

namespace Pattern

variable {admitted : Char → Prop}

/-! ### Ends -/

/-- All ends lie ahead, over admitted characters. -/
def Ends.Forward (admitted : Char → Prop) (body : Ends) : Prop :=
  ∀ place, ∀ next ∈ body place, place.Reaches admitted next

theorem Ends.exists_of_mem_andThen {first second : Ends} {place next : Place}
    (h : next ∈ first.andThen second place) : ∃ middle ∈ first place, next ∈ second middle := by
  unfold Ends.andThen at h
  split at h
  · next middle hmiddle => exact ⟨middle, by simp [hmiddle], h⟩
  · exact List.mem_flatMap.1 (Place.mem_of_mem_distinct h)

theorem Ends.forall_mem_visit {body : Ends} {P : Place → Prop}
    (hbody : ∀ place, P place → ∀ next ∈ body place, P next) (greedy : Bool) (fuel : Nat)
    {place : Place} {seen : List Place} (hplace : P place) (hseen : ∀ x ∈ seen, P x) :
    ∀ x ∈ body.visit greedy fuel place seen, P x := by
  induction fuel generalizing place seen with
  | zero => exact hseen
  | succ fuel ih =>
    have hcons : ∀ {seen : List Place}, (∀ x ∈ seen, P x) → ∀ x ∈ place :: seen, P x :=
      fun hseen => List.forall_mem_cons.2 ⟨hplace, hseen⟩
    have hfollow : ∀ {seen : List Place}, (∀ x ∈ seen, P x) →
        ∀ x ∈ (body place).foldl (fun seen next =>
          if place.index < next.index then body.visit greedy fuel next seen else seen) seen,
          P x := by
      intro seen hseen
      refine Place.forall_mem_foldl hseen fun seen next hnext hseen => ?_
      split
      · exact ih (hbody place hplace next hnext) hseen
      · exact hseen
    unfold Ends.visit
    split
    · exact hseen
    · split
      · exact hcons (hfollow hseen)
      · exact hfollow (hcons hseen)

namespace Ends.Forward

variable {body first second : Ends}

theorem stay : Ends.Forward admitted fun place => [place] := by
  intro place next hnext
  rw [List.mem_singleton.1 hnext]
  exact .refl place

theorem andThen (hfirst : first.Forward admitted) (hsecond : second.Forward admitted) :
    (first.andThen second).Forward admitted := by
  intro place next hnext
  obtain ⟨middle, hmiddle, hnext⟩ := Ends.exists_of_mem_andThen hnext
  exact (hfirst place middle hmiddle).trans (hsecond middle next hnext)

theorem orElse (hfirst : first.Forward admitted) (hsecond : second.Forward admitted) :
    (first.orElse second).Forward admitted := by
  intro place next hnext
  rcases List.mem_append.1 (Place.mem_of_mem_distinct hnext) with hnext | hnext
  · exact hfirst place next hnext
  · exact hsecond place next hnext

theorem times (h : body.Forward admitted) (count : Nat) : (body.times count).Forward admitted := by
  induction count with
  | zero => exact stay
  | succ count ih => exact h.andThen ih

theorem perhaps (h : body.Forward admitted) (greedy : Bool) :
    (body.perhaps greedy).Forward admitted := by
  unfold Ends.perhaps
  split
  · exact h.orElse stay
  · exact stay.orElse h

theorem upTo (h : body.Forward admitted) (greedy : Bool) (count : Nat) :
    (body.upTo greedy count).Forward admitted := by
  induction count with
  | zero => exact stay
  | succ count ih => exact (h.andThen ih).perhaps greedy

theorem exists_of_mem_rounds (h : body.Forward admitted) {greedy : Bool} {place next : Place}
    (hnext : next ∈ body.rounds greedy place) :
    ∃ middle ∈ body place, middle.Reaches admitted next := by
  let P : Place → Prop := fun x => ∃ middle ∈ body place, middle.Reaches admitted x
  have hbody : ∀ place, P place → ∀ next ∈ body place, P next := by
    rintro place ⟨middle, hmiddle, hplace⟩ next hnext
    exact ⟨middle, hmiddle, hplace.trans (h place next hnext)⟩
  have hfold : ∀ x ∈ (body place).foldl (fun seen (next : Place) =>
      if place.index < next.index then body.visit greedy place.rest.length next seen
      else if next.mem seen then seen else next :: seen) [], P x := by
    refine Place.forall_mem_foldl (by simp) fun seen next hnext hseen => ?_
    have hfirst : P next := ⟨next, hnext, .refl next⟩
    split
    · exact Ends.forall_mem_visit hbody greedy _ hfirst hseen
    · split
      · exact hseen
      · exact List.forall_mem_cons.2 ⟨hfirst, hseen⟩
  exact hfold next (List.mem_reverse.1 hnext)

theorem rounds (h : body.Forward admitted) (greedy : Bool) :
    (body.rounds greedy).Forward admitted := by
  intro place next hnext
  obtain ⟨middle, hmiddle, hreaches⟩ := h.exists_of_mem_rounds hnext
  exact (h place middle hmiddle).trans hreaches

theorem repeated (h : body.Forward admitted) (greedy : Bool) (least : Nat) (most : Option Nat) :
    (body.repeated greedy least most).Forward admitted := by
  cases most with
  | some most => exact (h.times least).andThen (h.upTo greedy (most - least))
  | none =>
    cases least with
    | zero => exact (h.rounds greedy).perhaps greedy
    | succ least => exact (h.times least).andThen (h.rounds greedy)

end Ends.Forward

/-! ### Patterns -/

theorem exists_of_mem_ends_set {members : CharSet} {place next : Place}
    (h : next ∈ (set members).ends place) :
    ∃ c, place.Passes [c] next ∧ members.contains c = true := by
  unfold ends at h
  split at h
  · cases h
  · next c rest hrest =>
    split at h
    · next hmember =>
      rw [List.mem_singleton.1 h]
      exact ⟨c, ⟨hrest, rfl⟩, hmember⟩
    · cases h

theorem forward_set (members : CharSet) :
    Ends.Forward (members.contains · = true) (set members).ends := by
  intro place next hnext
  obtain ⟨c, hpasses, hmember⟩ := exists_of_mem_ends_set hnext
  exact ⟨[c], hpasses, by simpa using hmember⟩

theorem exists_of_mem_ends_repeated {members : CharSet} {greedy : Bool} {place next : Place}
    (h : next ∈ (repeated (set members) 1 none greedy).ends place) :
    ∃ taken, place.Passes taken next ∧ taken ≠ [] ∧ ∀ c ∈ taken, members.contains c = true := by
  rw [ends, Ends.repeated] at h
  obtain ⟨middle, hmiddle, hnext⟩ := Ends.exists_of_mem_andThen h
  obtain rfl := List.mem_singleton.1 hmiddle
  obtain ⟨first, hfirst, taken, hpasses, hmembers⟩ :=
    (forward_set members).exists_of_mem_rounds hnext
  obtain ⟨c, hpass, hmember⟩ := exists_of_mem_ends_set hfirst
  refine ⟨c :: taken, hpass.trans hpasses, List.cons_ne_nil c taken, ?_⟩
  exact List.forall_mem_cons.2 ⟨hmember, hmembers⟩

theorem ends_forward (pattern : Pattern) : Ends.Forward (fun _ => True) pattern.ends := by
  induction pattern with
  | empty => exact .stay
  | set members =>
    intro place next hnext
    obtain ⟨c, hpasses, -⟩ := exists_of_mem_ends_set hnext
    exact ⟨[c], hpasses, fun _ _ => trivial⟩
  | anchor condition =>
    intro place next hnext
    unfold ends at hnext
    split at hnext
    · rw [List.mem_singleton.1 hnext]
      exact .refl place
    · cases hnext
  | seq _ _ ihFirst ihSecond => exact ihFirst.andThen ihSecond
  | alt _ _ ihFirst ihSecond => exact ihFirst.orElse ihSecond
  | repeated _ least most greedy ih => exact ih.repeated greedy least most

variable {pattern : Pattern} {text : List Char} {found : Found}

theorem within_of_findAt? {place : Place} (hfound : pattern.findAt? place = some found) :
    found.start = place.index ∧ found.start ≤ found.stop ∧
      found.stop ≤ place.index + place.rest.length := by
  obtain ⟨next, hnext, rfl⟩ := Option.map_eq_some_iff.1 hfound
  obtain ⟨taken, hpasses, -⟩ := pattern.ends_forward place next (List.mem_of_mem_head? hnext)
  rw [hpasses.rest, List.length_append]
  simp only [hpasses.index, true_and]
  omega

theorem within_of_findFrom? {index : Nat} {before : Option Char}
    (hfound : pattern.findFrom? index before text = some found) :
    index ≤ found.start ∧ found.start ≤ found.stop ∧ found.stop ≤ index + text.length := by
  induction text generalizing index before with
  | nil =>
    obtain ⟨hstart, hle, hstop⟩ := within_of_findAt? hfound
    exact ⟨Nat.le_of_eq hstart.symm, hle, hstop⟩
  | cons c rest ih =>
    rw [findFrom?] at hfound
    split at hfound
    · next hplace =>
      obtain ⟨hstart, hle, hstop⟩ := within_of_findAt? (hplace.trans hfound)
      exact ⟨Nat.le_of_eq hstart.symm, hle, hstop⟩
    · obtain ⟨hstart, hle, hstop⟩ := ih hfound
      rw [List.length_cons]
      omega

/-- A match ends inside the text and not before it starts. So its bytes are counted as they are,
with nothing cut off (`Found.toBytes`). -/
theorem within_of_find? (hfound : pattern.find? text = some found) :
    found.start ≤ found.stop ∧ found.stop ≤ text.length := by
  rw [find?_eq_findFrom?] at hfound
  obtain ⟨-, hle, hstop⟩ := within_of_findFrom? hfound
  rw [Nat.zero_add] at hstop
  exact ⟨hle, hstop⟩

/-- A pattern bound to the start of the text takes what it can take there. -/
theorem exists_of_find?_atStart
    (hfound : (seq (anchor .textStart) pattern).find? text = some found) :
    ∃ next ∈ pattern.ends (Place.start text), found.stop = next.index := by
  have hanchored : (seq (anchor .textStart) pattern).anchored = true := rfl
  rw [find?, if_pos hanchored] at hfound
  obtain ⟨next, hnext, rfl⟩ := Option.map_eq_some_iff.1 hfound
  obtain ⟨middle, hmiddle, hends⟩ := Ends.exists_of_mem_andThen (List.mem_of_mem_head? hnext)
  obtain rfl := List.mem_singleton.1 hmiddle
  exact ⟨next, hends, rfl⟩

end Pattern

end TokenGrammar
