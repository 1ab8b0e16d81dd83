import Mathlib.Data.List.Nodup
import TokenGrammar.Grammar.Workshop

/-!
# Building and requests

A builder remembers the names that it was asked to declare and the first one that came again.
Building a grammar stops there, or else at the first rule without a body. A workshop passes requests
on to the builder with the given number.
-/

namespace TokenGrammar

universe u

variable {β : Nat → Type u}

namespace GrammarBuilder

/-! ### Repeated names -/

/-- The first name that stands in the list a second time. -/
def firstRepeated? (seen : List String) : List String → Option String
  | [] => none
  | name :: rest => if seen.contains name then some name else firstRepeated? (name :: seen) rest

/-- A further name counts if there was no repeated one before it. -/
theorem firstRepeated?_concat (seen names : List String) (name : String) :
    firstRepeated? seen (names ++ [name]) =
      if (name ∈ seen ∨ name ∈ names) ∧ firstRepeated? seen names = none then some name
      else firstRepeated? seen names := by
  induction names generalizing seen with
  | nil => simp [firstRepeated?]
  | cons first rest ih =>
    rw [List.cons_append, firstRepeated?, firstRepeated?]
    split
    · simp
    · rw [ih (first :: seen)]
      simp only [List.mem_cons, or_left_comm, or_assoc]

theorem firstRepeated?_eq_none {seen names : List String} (h : firstRepeated? seen names = none) :
    names.Nodup ∧ ∀ name ∈ names, name ∉ seen := by
  induction names generalizing seen with
  | nil => simp
  | cons name rest ih =>
    rw [firstRepeated?] at h
    split at h
    · cases h
    · next hfresh =>
      rw [List.contains_iff_mem] at hfresh
      obtain ⟨hnodup, hseen⟩ := ih h
      refine ⟨List.nodup_cons.2 ⟨fun hmem => hseen name hmem List.mem_cons_self, hnodup⟩, ?_⟩
      refine List.forall_mem_cons.2 ⟨hfresh, fun other hother hmem => ?_⟩
      exact hseen other hother (List.mem_cons_of_mem name hmem)

theorem exists_of_firstRepeated? {seen names : List String} {name : String}
    (h : firstRepeated? seen names = some name) :
    ∃ before after, names = before ++ name :: after ∧ before.Nodup ∧ (∀ x ∈ before, x ∉ seen) ∧
      (name ∈ seen ∨ name ∈ before) := by
  induction names generalizing seen with
  | nil => cases h
  | cons first rest ih =>
    rw [firstRepeated?] at h
    split at h
    · next hseen =>
      cases h
      exact ⟨[], rest, rfl, List.nodup_nil, by simp, Or.inl (List.contains_iff_mem.1 hseen)⟩
    · next hfresh =>
      rw [List.contains_iff_mem] at hfresh
      obtain ⟨before, after, rfl, hnodup, hbefore, hname⟩ := ih h
      refine ⟨first :: before, after, rfl, ?_, ?_, ?_⟩
      · exact List.nodup_cons.2 ⟨fun hmem => hbefore first hmem List.mem_cons_self, hnodup⟩
      · refine List.forall_mem_cons.2 ⟨hfresh, fun x hx hmem => ?_⟩
        exact hbefore x hx (List.mem_cons_of_mem first hmem)
      · simp only [List.mem_cons] at hname ⊢
        tauto

/-! ### What a builder remembers -/

def slotNames (builder : GrammarBuilder β) : List String := builder.slots.map (·.name)

/-- The map of names has the serial number of every declared rule, the last one first, and the flag
shows the first name that was declared again. -/
structure Recalls (builder : GrammarBuilder β) : Prop where
  names : builder.names =
    (builder.slotNames.zipIdx.map fun entry => (entry.1, Serial.ofIndex entry.2)).reverse
  duplicate : builder.duplicate? = firstRepeated? [] builder.slotNames

section Recalls

variable {builder : GrammarBuilder β}

theorem Recalls.new (owner : UInt32) : Recalls (GrammarBuilder.new owner : GrammarBuilder β) :=
  ⟨rfl, rfl⟩

theorem Recalls.lookup_isSome (h : builder.Recalls) (name : String) :
    (builder.names.lookup name).isSome = true ↔ name ∈ builder.slotNames := by
  rw [List.lookup_isSome_iff, h.names]
  simp only [List.mem_reverse, List.mem_map, beq_iff_eq]
  constructor
  · rintro ⟨_, ⟨⟨found, position⟩, hmem, rfl⟩, rfl⟩
    exact List.mem_of_getElem? (List.mem_zipIdx_iff_getElem?.1 hmem)
  · intro hmem
    obtain ⟨position, hposition⟩ := List.getElem?_of_mem hmem
    exact ⟨_, ⟨(name, position), List.mem_zipIdx_iff_getElem?.2 hposition, rfl⟩, rfl⟩

theorem slotNames_declare (builder : GrammarBuilder β) (name : String) (output : Nat) :
    (builder.declare name output).2.slotNames = builder.slotNames ++ [name] := by
  simp [slotNames, declare]

theorem Recalls.declare (h : builder.Recalls) (name : String) (output : Nat) :
    (builder.declare name output).2.Recalls := by
  constructor
  · rw [slotNames_declare, List.zipIdx_append, List.map_append, List.reverse_append, ← h.names]
    simp [GrammarBuilder.declare, slotNames]
  · have hlookup := h.lookup_isSome name
    rw [slotNames_declare, firstRepeated?_concat, ← h.duplicate]
    simp only [GrammarBuilder.declare, Bool.and_eq_true, hlookup, Option.isNone_iff_eq_none,
      List.not_mem_nil, false_or]

/-- A body in the place of another changes no name. -/
theorem Recalls.set (h : builder.Recalls) {rule : Rule} {name : String}
    (hname : builder.slotNames[rule.index]? = some name) (body? : Option (Erased β)) :
    { builder with slots := builder.slots.set rule.index ⟨name, body?⟩ }.Recalls := by
  have hnames : { builder with slots := builder.slots.set rule.index ⟨name, body?⟩ }.slotNames =
      builder.slotNames := by
    simp only [slotNames, List.map_set] at hname ⊢
    obtain ⟨hlt, rfl⟩ := List.getElem?_eq_some_iff.1 hname
    exact List.set_getElem_self hlt
  constructor
  · rw [hnames]
    exact h.names
  · rw [hnames]
    exact h.duplicate

end Recalls

/-! ### Binding and building -/

theorem define_eq {builder : GrammarBuilder β} (hfits : builder.slots.length ≤ Word.limit)
    (name : String) (erased : Erased β) :
    builder.define name erased = .ok ((builder.declare name erased.output).1,
      { (builder.declare name erased.output).2 with
        slots := builder.slots ++ [⟨name, some erased⟩] }) := by
  have hindex : (builder.declare name erased.output).1.index = builder.slots.length :=
    Serial.index_ofIndex_of_le hfits
  simp only [define, bind, hindex]
  simp [declare, Except.map]

theorem slots_of_boundRules {slots : List (Slot β)} {rules : List (BoundRule β)}
    (h : boundRules slots = .ok rules) :
    slots = rules.map fun rule => ⟨rule.name, some rule.erased⟩ := by
  induction slots generalizing rules with
  | nil =>
    cases h
    rfl
  | cons slot rest ih =>
    obtain ⟨name, body?⟩ := slot
    cases body? with
    | none => cases h
    | some body =>
      rw [boundRules] at h
      split at h
      · next others hothers =>
        cases h
        rw [List.map_cons, ← ih hothers]
      · cases h

theorem exists_of_boundRules {slots : List (Slot β)} {error : GrammarError}
    (h : boundRules slots = .error error) :
    ∃ before name after, slots = before ++ ⟨name, none⟩ :: after ∧
      (∀ slot ∈ before, slot.body? ≠ none) ∧ error = .unboundRule name := by
  induction slots with
  | nil => cases h
  | cons slot rest ih =>
    obtain ⟨name, body?⟩ := slot
    cases body? with
    | none =>
      cases h
      exact ⟨[], name, rest, rfl, by simp, rfl⟩
    | some body =>
      rw [boundRules] at h
      split at h
      · cases h
      · next hothers =>
        cases h
        obtain ⟨before, other, after, rfl, hbefore, hname⟩ := ih hothers
        refine ⟨⟨name, some body⟩ :: before, other, after, rfl, ?_, hname⟩
        exact List.forall_mem_cons.2 ⟨by simp, hbefore⟩

end GrammarBuilder

namespace Workshop

/-! ### Requests -/

inductive Request (β : Nat → Type u) where
  | newBuilder
  | declare (index : Nat) (name : String) (output : Nat)
  | bind (index : Nat) (rule : Rule) (body : β rule.output)
  | define (index : Nat) (name : String) (erased : Erased β)
  | build (index : Nat)

inductive Reply (β : Nat → Type u) where
  | started (index : Nat)
  | declared (rule : Rule)
  | bound
  | built (grammar : Grammar β)
  | refused (error : WorkshopError)

def answer (workshop : Workshop β) : Request β → Reply β × Workshop β
  | .newBuilder => (.started workshop.newBuilder.1, workshop.newBuilder.2)
  | .declare index name output =>
    match workshop.declare index name output with
    | .ok (rule, after) => (.declared rule, after)
    | .error error => (.refused error, workshop)
  | .bind index rule body =>
    match workshop.bind index rule body with
    | .ok after => (.bound, after)
    | .error error => (.refused error, workshop)
  | .define index name erased =>
    match workshop.define index name erased with
    | .ok (rule, after) => (.declared rule, after)
    | .error error => (.refused error, workshop)
  | .build index =>
    match workshop.build index with
    | (.ok grammar, after) => (.built grammar, after)
    | (.error error, after) => (.refused error, after)

section Live

variable {workshop : Workshop β} {index : Nat} {builder : GrammarBuilder β}

theorem builder?_newBuilder (workshop : Workshop β) (index : Nat) :
    workshop.newBuilder.2.builder? index =
      if index = workshop.builders.length then some (.new (.ofNat (index + 1)))
      else workshop.builder? index := by
  simp only [newBuilder, builder?, List.getElem?_append]
  split
  · next hlt => rw [if_neg (Nat.ne_of_lt hlt)]
  · next hge =>
    split
    · next heq => simp [heq]
    · next hne =>
      rw [List.getElem?_eq_none (by simp; omega), List.getElem?_eq_none (by omega)]

theorem lt_of_builder? (hlive : workshop.builder? index = some builder) :
    index < workshop.builders.length := by
  by_contra hge
  rw [builder?, List.getElem?_eq_none (Nat.le_of_not_lt hge)] at hlive
  cases hlive

@[simp]
theorem length_replace (workshop : Workshop β) (index : Nat)
    (after? : Option (GrammarBuilder β)) :
    (workshop.replace index after?).builders.length = workshop.builders.length :=
  List.length_set

theorem builder?_replace (hlive : workshop.builder? index = some builder)
    (after? : Option (GrammarBuilder β)) (other : Nat) :
    (workshop.replace index after?).builder? other =
      if other = index then after? else workshop.builder? other := by
  have hlt := lt_of_builder? hlive
  simp only [replace, builder?, List.getElem?_set]
  by_cases heq : other = index
  · subst heq
    simp [hlt]
  · rw [if_neg (Ne.symm heq), if_neg heq]

variable (hlive : workshop.builder? index = some builder)

include hlive

theorem answer_declare (name : String) (output : Nat) :
    workshop.answer (.declare index name output) =
      (.declared (builder.declare name output).1,
        workshop.replace index (some (builder.declare name output).2)) := by
  simp only [answer, declare, hlive]

theorem answer_bind (rule : Rule) (body : β rule.output) :
    workshop.answer (.bind index rule body) =
      match builder.bind rule body with
      | .ok after => (.bound, workshop.replace index (some after))
      | .error error => (.refused (.grammar error), workshop) := by
  simp only [answer, bind, hlive]
  cases builder.bind rule body <;> rfl

theorem answer_define (name : String) (erased : Erased β) :
    workshop.answer (.define index name erased) =
      match builder.define name erased with
      | .ok (rule, after) => (.declared rule, workshop.replace index (some after))
      | .error error => (.refused (.grammar error), workshop) := by
  simp only [answer, define, hlive]
  cases builder.define name erased <;> rfl

theorem answer_build :
    workshop.answer (.build index) =
      match builder.build with
      | .ok grammar => (.built grammar, workshop.replace index none)
      | .error error => (.refused (.grammar error), workshop.replace index none) := by
  simp only [answer, build, hlive]
  cases builder.build <;> rfl

end Live

end Workshop

end TokenGrammar
