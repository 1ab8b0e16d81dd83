import Mathlib.Logic.Function.Basic
import TokenGrammar.Proofs.Grammar.Building

/-!
# The ledger of a workshop

A ledger takes down what was granted: which builders are at work, which rules they handed out, which
bodies were bound and which grammars were built. It knows nothing of slots and numbers. The workshop
keeps to it: every request that is granted changes both alike, and one that is refused neither.
-/

namespace TokenGrammar

universe u

variable {β : Nat → Type u}

namespace Workshop

/-! ### The ledger -/

/-- What was granted so far. -/
structure Ledger (β : Nat → Type u) where
  /-- The builders that were started and not yet used up. -/
  live : Nat → Bool
  /-- The rules that a builder handed out, in order. -/
  declared : Nat → List Rule
  /-- The bodies that were bound to a rule. -/
  bound : Rule → List (Erased β)
  /-- The grammars that were built, each with the number of its builder. -/
  built : List (Nat × Grammar β)

namespace Ledger

def empty : Ledger β := ⟨fun _ => false, fun _ => [], fun _ => [], []⟩

def start (ledger : Ledger β) (index : Nat) : Ledger β :=
  { ledger with live := Function.update ledger.live index true }

def close (ledger : Ledger β) (index : Nat) : Ledger β :=
  { ledger with live := Function.update ledger.live index false }

def declare (ledger : Ledger β) (index : Nat) (rule : Rule) : Ledger β :=
  { ledger with
    declared := Function.update ledger.declared index (ledger.declared index ++ [rule]) }

def bind (ledger : Ledger β) (rule : Rule) (erased : Erased β) : Ledger β :=
  { ledger with bound := Function.update ledger.bound rule (ledger.bound rule ++ [erased]) }

def publish (ledger : Ledger β) (index : Nat) (grammar : Grammar β) : Ledger β :=
  { ledger with built := (index, grammar) :: ledger.built }

/-- Takes down what a reply grants. A builder is used up even if its grammar is refused. -/
def enter (ledger : Ledger β) : Request β → Reply β → Ledger β
  | .newBuilder, .started index => ledger.start index
  | .declare index _ _, .declared rule => ledger.declare index rule
  | .bind _ rule body, .bound => ledger.bind rule ⟨rule.output, body⟩
  | .define index _ erased, .declared rule => (ledger.declare index rule).bind rule erased
  | .build index, .built grammar => (ledger.close index).publish index grammar
  | .build index, .refused (.grammar _) => ledger.close index
  | _, _ => ledger

def Knows (ledger : Ledger β) (rule : Rule) : Prop := ∃ index, rule ∈ ledger.declared index

/-- The slot of a rule with this history. -/
def slot (ledger : Ledger β) (rule : Rule) : Slot β := ⟨rule.name, (ledger.bound rule).head?⟩

variable (ledger : Ledger β) (index other : Nat) (rule handle : Rule) (erased : Erased β)

theorem start_live :
    (ledger.start index).live other = if other = index then true else ledger.live other :=
  Function.update_apply ..

theorem close_live :
    (ledger.close index).live other = if other = index then false else ledger.live other :=
  Function.update_apply ..

theorem declare_declared :
    (ledger.declare index rule).declared other =
      if other = index then ledger.declared index ++ [rule] else ledger.declared other :=
  Function.update_apply ..

theorem bind_bound :
    (ledger.bind rule erased).bound handle =
      if handle = rule then ledger.bound rule ++ [erased] else ledger.bound handle :=
  Function.update_apply ..

variable {ledger rule handle erased}

theorem bind_slot_of_ne (hne : handle ≠ rule) :
    (ledger.bind rule erased).slot handle = ledger.slot handle := by
  rw [slot, slot, bind_bound, if_neg hne]

theorem bind_slot_self (hnone : ledger.bound rule = []) :
    (ledger.bind rule erased).slot rule = ⟨rule.name, some erased⟩ := by
  rw [slot, bind_bound, if_pos rfl, hnone]
  rfl

end Ledger

/-- There are fewer than 2^32 builders, with fewer than 2^32 rules each. -/
structure Ledger.Fits (ledger : Ledger β) (workshop : Workshop β) : Prop where
  builders : workshop.builders.length ≤ Word.limit
  rules : ∀ index, (ledger.declared index).length ≤ Word.limit

theorem Ledger.length_lt_of_declare {ledger : Ledger β} {index : Nat} {rule : Rule}
    (hfits : ((ledger.declare index rule).declared index).length ≤ Word.limit) :
    (ledger.declared index).length < Word.limit := by
  rw [declare_declared, if_pos rfl, List.length_append, List.length_singleton] at hfits
  exact hfits

/-- A builder at work holds what the ledger says of it, and remembers its names. -/
structure Ledger.Shows (ledger : Ledger β) (index : Nat) (builder : GrammarBuilder β) : Prop where
  owner : builder.owner = .ofNat (index + 1)
  slots : builder.slots = (ledger.declared index).map ledger.slot
  recalls : builder.Recalls

theorem Ledger.Shows.congr {ledger after : Ledger β} {index : Nat} {builder : GrammarBuilder β}
    (h : ledger.Shows index builder)
    (hslots : (after.declared index).map after.slot = (ledger.declared index).map ledger.slot) :
    after.Shows index builder :=
  ⟨h.owner, h.slots.trans hslots.symm, h.recalls⟩

/-- The workshop holds what the ledger says. -/
structure Keeps (workshop : Workshop β) (ledger : Ledger β) : Prop where
  fits : ledger.Fits workshop
  live : ∀ index, ledger.live index = (workshop.builder? index).isSome
  handle : ∀ index position (rule : Rule), (ledger.declared index)[position]? = some rule →
    rule.owner = .ofNat (index + 1) ∧ rule.index = position
  started : ∀ index, ledger.declared index ≠ [] → index < workshop.builders.length
  single : ∀ rule, (ledger.bound rule).length ≤ 1
  /-- What is bound to a rule has the type of that rule. -/
  typed : ∀ rule, ∀ erased ∈ ledger.bound rule, erased.output = rule.output
  known : ∀ rule, ledger.bound rule ≠ [] → ledger.Knows rule
  shows : ∀ index builder, workshop.builder? index = some builder → ledger.Shows index builder
  built : ∀ index grammar, (index, grammar) ∈ ledger.built →
    index < workshop.builders.length ∧ workshop.builder? index = none ∧
      grammar.owner = .ofNat (index + 1) ∧
      (ledger.declared index).map ledger.slot =
        grammar.rules.map fun rule => ⟨rule.name, some rule.erased⟩

namespace Keeps

variable {workshop : Workshop β} {ledger : Ledger β} {index other : Nat} {rule : Rule}
  {builder : GrammarBuilder β} {erased : Erased β}

theorem empty : Keeps (Workshop.empty : Workshop β) Ledger.empty where
  fits := ⟨Nat.zero_le _, fun _ => Nat.zero_le _⟩
  live _ := rfl
  handle _ _ _ h := nomatch h
  started _ h := absurd rfl h
  single _ := Nat.zero_le 1
  typed _ _ h := nomatch h
  known _ h := absurd rfl h
  shows _ _ h := nomatch h
  built _ _ h := nomatch h

section Handles

variable (hkeeps : workshop.Keeps ledger)

include hkeeps

/-- Different builders have different numbers. -/
theorem owner_inj (hindex : index < workshop.builders.length)
    (hother : other < workshop.builders.length)
    (howner : UInt32.ofNat (other + 1) = UInt32.ofNat (index + 1)) : other = index := by
  have hbuilders := hkeeps.fits.builders
  have hwords := congrArg UInt32.toNat howner
  rw [UInt32.toNat_ofNat', UInt32.toNat_ofNat'] at hwords
  rw [Word.limit] at hbuilders
  omega

theorem owner_of_mem (hrule : rule ∈ ledger.declared index) : rule.owner = .ofNat (index + 1) := by
  obtain ⟨position, hposition⟩ := List.getElem?_of_mem hrule
  exact (hkeeps.handle index position rule hposition).1

theorem getElem?_of_mem (hrule : rule ∈ ledger.declared index) :
    (ledger.declared index)[rule.index]? = some rule := by
  obtain ⟨position, hposition⟩ := List.getElem?_of_mem hrule
  rw [(hkeeps.handle index position rule hposition).2]
  exact hposition

theorem lt_of_mem (hrule : rule ∈ ledger.declared index) : index < workshop.builders.length :=
  hkeeps.started index (List.ne_nil_of_mem hrule)

theorem index_unique (hrule : rule ∈ ledger.declared index)
    (hother : rule ∈ ledger.declared other) : other = index := by
  have howner := hkeeps.owner_of_mem hrule
  rw [hkeeps.owner_of_mem hother] at howner
  exact hkeeps.owner_inj (hkeeps.lt_of_mem hrule) (hkeeps.lt_of_mem hother) howner

theorem owner_ne (hknown : ledger.Knows rule) (hindex : index < workshop.builders.length)
    (hrule : rule ∉ ledger.declared index) : rule.owner ≠ .ofNat (index + 1) := by
  obtain ⟨other, hother⟩ := hknown
  intro howner
  rw [hkeeps.owner_of_mem hother] at howner
  obtain rfl : other = index := hkeeps.owner_inj hindex (hkeeps.lt_of_mem hother) howner
  exact hrule hother

theorem declare_owner (hlive : workshop.builder? index = some builder) (name : String)
    (output : Nat) : (builder.declare name output).1.owner = .ofNat (index + 1) :=
  (hkeeps.shows index builder hlive).owner

theorem length_slots (hlive : workshop.builder? index = some builder) :
    builder.slots.length = (ledger.declared index).length := by
  rw [(hkeeps.shows index builder hlive).slots, List.length_map]

theorem declare_index (hlive : workshop.builder? index = some builder) (name : String)
    (output : Nat) : (builder.declare name output).1.index = (ledger.declared index).length := by
  rw [← hkeeps.length_slots hlive]
  apply Serial.index_ofIndex_of_le
  rw [hkeeps.length_slots hlive]
  exact hkeeps.fits.rules index

/-- The next rule of a builder is a new one. -/
theorem declare_fresh (hlive : workshop.builder? index = some builder) (name : String)
    (output : Nat) : ¬ ledger.Knows (builder.declare name output).1 := by
  rintro ⟨other, hmem⟩
  have howner := hkeeps.owner_of_mem hmem
  rw [hkeeps.declare_owner hlive] at howner
  obtain rfl : other = index :=
    hkeeps.owner_inj (lt_of_builder? hlive) (hkeeps.lt_of_mem hmem) howner.symm
  have hposition := hkeeps.getElem?_of_mem hmem
  rw [hkeeps.declare_index hlive, List.getElem?_eq_none (Nat.le_refl _)] at hposition
  cases hposition

theorem bound_eq_nil (hrule : ¬ ledger.Knows rule) : ledger.bound rule = [] := by
  by_contra hne
  exact hrule (hkeeps.known rule hne)

end Handles

/-! ### What a request does -/

theorem start (hkeeps : workshop.Keeps ledger)
    (hfits : workshop.newBuilder.2.builders.length ≤ Word.limit) :
    workshop.newBuilder.2.Keeps (ledger.start workshop.builders.length) where
  fits := ⟨hfits, hkeeps.fits.rules⟩
  live index := by
    rw [builder?_newBuilder, Ledger.start_live]
    split
    · rfl
    · exact hkeeps.live index
  handle := hkeeps.handle
  started index hdeclared := by
    have hlt := hkeeps.started index hdeclared
    simp only [newBuilder, List.length_append, List.length_singleton]
    omega
  single := hkeeps.single
  typed := hkeeps.typed
  known := hkeeps.known
  shows index builder hbuilder := by
    rw [builder?_newBuilder] at hbuilder
    split at hbuilder
    · next heq =>
      cases hbuilder
      have hnone : ledger.declared index = [] := by
        by_contra hne
        exact absurd heq (Nat.ne_of_lt (hkeeps.started index hne))
      exact ⟨rfl, by simp [Ledger.start, hnone, GrammarBuilder.new], .new _⟩
    · exact (hkeeps.shows index builder hbuilder).congr rfl
  built index grammar hbuilt := by
    obtain ⟨hlt, hnone, howner, hrules⟩ := hkeeps.built index grammar hbuilt
    refine ⟨?_, ?_, howner, hrules⟩
    · simp only [newBuilder, List.length_append, List.length_singleton]
      omega
    · rw [builder?_newBuilder, if_neg (Nat.ne_of_lt hlt), hnone]

theorem ne_of_built (hkeeps : workshop.Keeps ledger)
    (hlive : workshop.builder? index = some builder) {grammar : Grammar β}
    (hbuilt : (other, grammar) ∈ ledger.built) : other ≠ index := by
  rintro rfl
  obtain ⟨-, hnone, -⟩ := hkeeps.built other grammar hbuilt
  rw [hlive] at hnone
  cases hnone

section Replace

variable {after : Ledger β} {builder' : GrammarBuilder β} (hkeeps : workshop.Keeps ledger)
  (hlive : workshop.builder? index = some builder)

include hkeeps hlive

theorem live_replace (other : Nat) :
    ledger.live other = ((workshop.replace index (some builder')).builder? other).isSome := by
  rw [builder?_replace hlive]
  split
  · next heq => rw [heq, hkeeps.live, hlive]; rfl
  · exact hkeeps.live other

variable (hothers : ∀ other, other ≠ index →
  (after.declared other).map after.slot = (ledger.declared other).map ledger.slot)

include hothers

/-- What is changed at one builder does not show at another. -/
theorem shows_replace (hself : after.Shows index builder') (other : Nat)
    (found : GrammarBuilder β)
    (hfound : (workshop.replace index (some builder')).builder? other = some found) :
    after.Shows other found := by
  rw [builder?_replace hlive] at hfound
  split at hfound
  · next heq =>
    cases hfound
    exact heq ▸ hself
  · next hne => exact (hkeeps.shows other found hfound).congr (hothers other hne)

theorem built_replace {after? : Option (GrammarBuilder β)} (other : Nat) (grammar : Grammar β)
    (hbuilt : (other, grammar) ∈ ledger.built) :
    other < (workshop.replace index after?).builders.length ∧
      (workshop.replace index after?).builder? other = none ∧
      grammar.owner = .ofNat (other + 1) ∧
      (after.declared other).map after.slot =
        grammar.rules.map fun rule => ⟨rule.name, some rule.erased⟩ := by
  have hne := hkeeps.ne_of_built hlive hbuilt
  obtain ⟨hlt, hnone, howner, hrules⟩ := hkeeps.built other grammar hbuilt
  rw [length_replace, builder?_replace hlive, if_neg hne]
  exact ⟨hlt, hnone, howner, (hothers other hne).trans hrules⟩

end Replace

/-- The next rule of a builder stands where its number says. -/
theorem declare_handle (hkeeps : workshop.Keeps ledger) (howner : rule.owner = .ofNat (index + 1))
    (hindex : rule.index = (ledger.declared index).length) {position : Nat} {found : Rule}
    (hfound : ((ledger.declare index rule).declared other)[position]? = some found) :
    found.owner = .ofNat (other + 1) ∧ found.index = position := by
  rw [Ledger.declare_declared] at hfound
  split at hfound
  · next heq =>
    subst heq
    rw [List.getElem?_append] at hfound
    split at hfound
    · exact hkeeps.handle other position found hfound
    · next hge =>
      obtain ⟨hlt, rfl⟩ := List.getElem?_eq_some_iff.1 hfound
      simp only [List.length_singleton] at hlt
      simp only [List.getElem_singleton, howner, hindex, true_and]
      omega
  · exact hkeeps.handle other position found hfound

theorem declare (hkeeps : workshop.Keeps ledger)
    (hlive : workshop.builder? index = some builder) (name : String) (output : Nat)
    (hfits : (ledger.declared index).length < Word.limit) :
    (workshop.replace index (some (builder.declare name output).2)).Keeps
      (ledger.declare index (builder.declare name output).1) := by
  set rule := (builder.declare name output).1
  have howner : rule.owner = .ofNat (index + 1) := hkeeps.declare_owner hlive name output
  have hindex : rule.index = (ledger.declared index).length :=
    hkeeps.declare_index hlive name output
  have hothers : ∀ other, other ≠ index →
      ((ledger.declare index rule).declared other).map (ledger.declare index rule).slot =
        (ledger.declared other).map ledger.slot := by
    intro other hne
    rw [Ledger.declare_declared, if_neg hne]
    rfl
  constructor
  case fits =>
    refine ⟨by simpa using hkeeps.fits.builders, fun other => ?_⟩
    rw [Ledger.declare_declared]
    split
    · rw [List.length_append, List.length_singleton]
      exact hfits
    · exact hkeeps.fits.rules other
  case live => exact hkeeps.live_replace hlive
  case handle => exact fun other position found => hkeeps.declare_handle howner hindex
  case started =>
    intro other hne
    rw [Ledger.declare_declared] at hne
    rw [length_replace]
    split at hne
    · next heq => exact heq ▸ lt_of_builder? hlive
    · exact hkeeps.started other hne
  case single => exact hkeeps.single
  case typed => exact hkeeps.typed
  case known =>
    intro found hne
    obtain ⟨other, hmem⟩ := hkeeps.known found hne
    refine ⟨other, ?_⟩
    rw [Ledger.declare_declared]
    split
    · next heq => exact List.mem_append_left _ (heq ▸ hmem)
    · exact hmem
  case shows =>
    have hshows := hkeeps.shows index builder hlive
    have hslot : (ledger.declare index rule).slot rule = ⟨name, none⟩ := by
      have hfresh : (ledger.declare index rule).bound rule = [] :=
        hkeeps.bound_eq_nil (hkeeps.declare_fresh hlive name output)
      rw [Ledger.slot, hfresh]
      rfl
    refine hkeeps.shows_replace hlive hothers ⟨howner, ?_, hshows.recalls.declare name output⟩
    rw [Ledger.declare_declared, if_pos rfl, List.map_append, List.map_singleton, hslot]
    exact congrArg (· ++ [⟨name, none⟩]) hshows.slots
  case built => exact hkeeps.built_replace hlive hothers

/-- Binding a rule of a builder leaves the slots of all other rules alone. -/
theorem map_bind_slot (hkeeps : workshop.Keeps ledger) (hrule : rule ∈ ledger.declared index)
    (hnone : ledger.bound rule = []) (erased : Erased β) (other : Nat) :
    (ledger.declared other).map (ledger.bind rule erased).slot =
      if other = index then
        ((ledger.declared index).map ledger.slot).set rule.index ⟨rule.name, some erased⟩
      else (ledger.declared other).map ledger.slot := by
  split
  · next heq =>
    subst heq
    apply List.ext_getElem?
    intro position
    rw [List.getElem?_map, List.getElem?_set]
    by_cases hposition : rule.index = position
    · subst hposition
      have hlt : rule.index < (ledger.declared other).length :=
        (List.getElem?_eq_some_iff.1 (hkeeps.getElem?_of_mem hrule)).1
      rw [hkeeps.getElem?_of_mem hrule, if_pos rfl, List.length_map, if_pos hlt, Option.map_some,
        Ledger.bind_slot_self hnone]
    · rw [if_neg hposition, List.getElem?_map]
      cases hfound : (ledger.declared other)[position]? with
      | none => rfl
      | some found =>
        have hne : found ≠ rule := by
          rintro rfl
          exact hposition (hkeeps.handle other position found hfound).2
        rw [Option.map_some, Option.map_some, Ledger.bind_slot_of_ne hne]
  · next hne =>
    apply List.map_congr_left
    intro found hfound
    apply Ledger.bind_slot_of_ne
    rintro rfl
    exact hne (hkeeps.index_unique hrule hfound)

theorem bind (hkeeps : workshop.Keeps ledger) (hlive : workshop.builder? index = some builder)
    (hrule : rule ∈ ledger.declared index) (hnone : ledger.bound rule = [])
    (htyped : erased.output = rule.output) :
    (workshop.replace index (some { builder with
      slots := builder.slots.set rule.index ⟨rule.name, some erased⟩ })).Keeps
      (ledger.bind rule erased) := by
  have hslots := hkeeps.map_bind_slot hrule hnone erased
  have hothers : ∀ other, other ≠ index →
      ((ledger.bind rule erased).declared other).map (ledger.bind rule erased).slot =
        (ledger.declared other).map ledger.slot :=
    fun other hne => (hslots other).trans (if_neg hne)
  constructor
  case fits => exact ⟨by simpa using hkeeps.fits.builders, hkeeps.fits.rules⟩
  case live => exact hkeeps.live_replace hlive
  case handle => exact hkeeps.handle
  case started =>
    intro other hne
    simpa using hkeeps.started other hne
  case single =>
    intro handle
    rw [Ledger.bind_bound]
    split
    · rw [hnone]
      exact Nat.le_refl 1
    · exact hkeeps.single handle
  case typed =>
    intro handle found hfound
    rw [Ledger.bind_bound] at hfound
    split at hfound
    · next heq =>
      rw [hnone, List.nil_append, List.mem_singleton] at hfound
      rw [hfound, heq, htyped]
    · exact hkeeps.typed handle found hfound
  case known =>
    intro handle hne
    rw [Ledger.bind_bound] at hne
    split at hne
    · next heq => exact ⟨index, heq ▸ hrule⟩
    · exact hkeeps.known handle hne
  case shows =>
    have hshows := hkeeps.shows index builder hlive
    have hname : builder.slotNames[rule.index]? = some rule.name := by
      rw [GrammarBuilder.slotNames, hshows.slots, List.map_map, List.getElem?_map,
        hkeeps.getElem?_of_mem hrule]
      rfl
    refine hkeeps.shows_replace hlive hothers
      ⟨hshows.owner, ?_, hshows.recalls.set hname (some erased)⟩
    exact ((hslots index).trans ((if_pos rfl).trans (by rw [hshows.slots]))).symm
  case built => exact hkeeps.built_replace hlive hothers

theorem close (hkeeps : workshop.Keeps ledger) (hlive : workshop.builder? index = some builder) :
    (workshop.replace index none).Keeps (ledger.close index) := by
  constructor
  case fits => exact ⟨by simpa using hkeeps.fits.builders, hkeeps.fits.rules⟩
  case live =>
    intro other
    rw [builder?_replace hlive, Ledger.close_live]
    split
    · rfl
    · exact hkeeps.live other
  case handle => exact hkeeps.handle
  case started =>
    intro other hne
    simpa using hkeeps.started other hne
  case single => exact hkeeps.single
  case typed => exact hkeeps.typed
  case known => exact hkeeps.known
  case shows =>
    intro other found hfound
    rw [builder?_replace hlive] at hfound
    split at hfound
    · cases hfound
    · exact (hkeeps.shows other found hfound).congr rfl
  case built => exact hkeeps.built_replace hlive fun _ _ => rfl

theorem publish (hkeeps : workshop.Keeps ledger)
    (hlive : workshop.builder? index = some builder) {grammar : Grammar β}
    (hbuild : builder.build = .ok grammar) :
    (workshop.replace index none).Keeps ((ledger.close index).publish index grammar) := by
  have hclosed := hkeeps.close hlive
  have hshows := hkeeps.shows index builder hlive
  have hshown : ∀ other found, (workshop.replace index none).builder? other = some found →
      ((ledger.close index).publish index grammar).Shows other found := by
    intro other found hfound
    exact (hclosed.shows other found hfound).congr rfl
  refine ⟨⟨hclosed.fits.builders, hclosed.fits.rules⟩, hclosed.live, hclosed.handle,
    hclosed.started, hclosed.single, hclosed.typed, hclosed.known, hshown, ?_⟩
  intro other found hfound
  rcases List.mem_cons.1 hfound with heq | hfound
  · cases heq
    refine ⟨by simpa using lt_of_builder? hlive, ?_, ?_⟩
    · rw [builder?_replace hlive, if_pos rfl]
    · unfold GrammarBuilder.build at hbuild
      split at hbuild
      · cases hbuild
      · split at hbuild
        · next rules hrules =>
          cases hbuild
          exact ⟨hshows.owner, hshows.slots ▸ GrammarBuilder.slots_of_boundRules hrules⟩
        · cases hbuild
  · exact hclosed.built other found hfound

/-- A rule is bound once, and by its own builder. -/
theorem bind_eq (hkeeps : workshop.Keeps ledger) (hlive : workshop.builder? index = some builder)
    (hknown : ledger.Knows rule) (body : β rule.output) :
    builder.bind rule body =
      if rule ∈ ledger.declared index then
        if (ledger.bound rule).isEmpty then
          .ok { builder with
            slots := builder.slots.set rule.index ⟨rule.name, some ⟨rule.output, body⟩⟩ }
        else .error (.alreadyBound rule.name)
      else .error (.foreignRule rule.name) := by
  obtain ⟨howner, hslots, -⟩ := hkeeps.shows index builder hlive
  unfold GrammarBuilder.bind
  by_cases hrule : rule ∈ ledger.declared index
  · have hslot : builder.slots[rule.index]? = some ⟨rule.name, (ledger.bound rule).head?⟩ := by
      rw [hslots, List.getElem?_map, hkeeps.getElem?_of_mem hrule]
      rfl
    rw [if_pos hrule, if_pos ((hkeeps.owner_of_mem hrule).trans howner.symm)]
    simp only [hslot]
    cases ledger.bound rule <;> rfl
  · rw [if_neg hrule, howner, if_neg (hkeeps.owner_ne hknown (lt_of_builder? hlive) hrule)]

/-- A grammar contains the rules of its builder, and no others that were handed out. -/
theorem contains_iff_of_built (hkeeps : workshop.Keeps ledger) {grammar : Grammar β}
    (hbuilt : (index, grammar) ∈ ledger.built) (hknown : ledger.Knows rule) :
    grammar.contains rule = true ↔ rule ∈ ledger.declared index := by
  obtain ⟨hindex, -, howner, hrules⟩ := hkeeps.built index grammar hbuilt
  have hsize : grammar.size = (ledger.declared index).length := by
    rw [Grammar.size, ← List.length_map, ← hrules, List.length_map]
  rw [Grammar.contains_iff, howner, hsize]
  constructor
  · rintro ⟨heq, -⟩
    by_contra hrule
    exact hkeeps.owner_ne hknown hindex hrule heq
  · intro hrule
    exact ⟨hkeeps.owner_of_mem hrule,
      (List.getElem?_eq_some_iff.1 (hkeeps.getElem?_of_mem hrule)).1⟩

/-- A grammar finds a body for the rules of its builder, namely the one bound to each of them. -/
theorem body?_of_built (hkeeps : workshop.Keeps ledger) {grammar : Grammar β}
    (hbuilt : (index, grammar) ∈ ledger.built) (hrule : rule ∈ ledger.declared index) :
    ∃ body, ledger.bound rule = [⟨rule.output, body⟩] ∧ grammar.body? rule = some body := by
  obtain ⟨-, -, howner, hrules⟩ := hkeeps.built index grammar hbuilt
  have hslot := congrArg (·[rule.index]?) hrules
  simp only [List.getElem?_map, hkeeps.getElem?_of_mem hrule, Option.map_some] at hslot
  obtain ⟨⟨name, erased⟩, hfound, heq⟩ := Option.map_eq_some_iff.1 hslot.symm
  have hhead : (ledger.bound rule).head? = some erased := (congrArg Slot.body? heq).symm
  have hbound : ledger.bound rule = [erased] := by
    obtain ⟨rest, hrest⟩ := List.head?_eq_some_iff.1 hhead
    have hsingle := hkeeps.single rule
    rw [hrest, List.length_cons] at hsingle
    rw [hrest, List.length_eq_zero_iff.1 (by omega : rest.length = 0)]
  have htyped : erased.output = rule.output := hkeeps.typed rule erased (by simp [hbound])
  obtain ⟨output, body⟩ := erased
  obtain rfl : output = rule.output := htyped
  refine ⟨body, hbound, ?_⟩
  exact Grammar.body?_eq_some_iff.2 ⟨(hkeeps.owner_of_mem hrule).trans howner.symm, name, hfound⟩

theorem body?_eq_none_of_built (hkeeps : workshop.Keeps ledger) {grammar : Grammar β}
    (hbuilt : (index, grammar) ∈ ledger.built) (hknown : ledger.Knows rule)
    (hrule : rule ∉ ledger.declared index) : grammar.body? rule = none := by
  rw [Grammar.body?, if_neg (mt (hkeeps.contains_iff_of_built hbuilt hknown).1 hrule)]

end Keeps

end Workshop

end TokenGrammar
