import TokenGrammar.Proofs.Grammar.Ledger

/-!
# Histories of a workshop

Builders are asked to declare, bind, define and build in any order, one beside the other. The ledger
of what was granted says what becomes of the next request: a rule is bound once and by its own
builder, a grammar is built once every rule of its builder has a body and no name stands twice, and
it finds for each of these rules the body that was bound to it and for no other rule anything.
-/

namespace TokenGrammar

universe u

variable {β : Nat → Type u}

namespace Workshop

/-- What can be on the ledger, and the workshop then. Rules are known from their builders only, and
neither builders nor the rules of one of them are so many that their numbers run out. -/
inductive History : Ledger β → Workshop β → Prop where
  | start : History Ledger.empty Workshop.empty
  | step {ledger : Ledger β} {workshop : Workshop β} (h : History ledger workshop)
      (request : Request β)
      (hknown : ∀ index rule body, request = .bind index rule body → ledger.Knows rule)
      (hfits : (ledger.enter request (workshop.answer request).1).Fits
        (workshop.answer request).2) :
      History (ledger.enter request (workshop.answer request).1) (workshop.answer request).2

/-- How building ends, by what the builder declared and what was bound to its rules. -/
inductive Verdict (ledger : Ledger β) (index : Nat) : Reply β → Prop where
  | duplicate {before after : List Rule} {rule : Rule}
      (hdeclared : ledger.declared index = before ++ rule :: after)
      (hdistinct : (before.map (·.name)).Nodup) (hrepeats : rule.name ∈ before.map (·.name)) :
      Verdict ledger index (.refused (.grammar (.duplicateRule rule.name)))
  | unbound {before after : List Rule} {rule : Rule}
      (hdistinct : ((ledger.declared index).map (·.name)).Nodup)
      (hdeclared : ledger.declared index = before ++ rule :: after)
      (hbefore : ∀ earlier ∈ before, ledger.bound earlier ≠ [])
      (hrule : ledger.bound rule = []) :
      Verdict ledger index (.refused (.grammar (.unboundRule rule.name)))
  | complete {grammar : Grammar β} (hdistinct : ((ledger.declared index).map (·.name)).Nodup)
      (hbound : ∀ rule ∈ ledger.declared index, ledger.bound rule ≠ [])
      (hnames : grammar.ruleNames = (ledger.declared index).map (·.name)) :
      Verdict ledger index (.built grammar)

section Verdict

variable {workshop : Workshop β} {ledger : Ledger β} {index : Nat}

theorem Ledger.bound_ne_nil_of_slot {rule : Rule} (h : (ledger.slot rule).body? ≠ none) :
    ledger.bound rule ≠ [] := by
  intro hnil
  rw [slot, hnil] at h
  exact h rfl

theorem Keeps.verdict (hkeeps : workshop.Keeps ledger) {builder : GrammarBuilder β}
    (hlive : workshop.builder? index = some builder) :
    Verdict ledger index (workshop.answer (.build index)).1 := by
  rw [answer_build hlive]
  obtain ⟨-, hslots, hrecalls⟩ := hkeeps.shows index builder hlive
  have hnames : builder.slotNames = (ledger.declared index).map (·.name) := by
    rw [GrammarBuilder.slotNames, hslots, List.map_map]
    rfl
  have hduplicate := hrecalls.duplicate
  rw [hnames] at hduplicate
  simp only [GrammarBuilder.build, hslots]
  cases hrepeated : builder.duplicate? with
  | some name =>
    obtain ⟨before, after, hsplit, hnodup, -, hmem⟩ :=
      GrammarBuilder.exists_of_firstRepeated? (hduplicate.symm.trans hrepeated)
    obtain ⟨earlier, later, hdeclared, rfl, hlater⟩ := List.map_eq_append_iff.1 hsplit
    obtain ⟨rule, rest, rfl, rfl, -⟩ := List.map_eq_cons_iff.1 hlater
    exact .duplicate hdeclared hnodup (hmem.resolve_left List.not_mem_nil)
  | none =>
    have hdistinct := (GrammarBuilder.firstRepeated?_eq_none (hduplicate.symm.trans hrepeated)).1
    cases hrules : GrammarBuilder.boundRules ((ledger.declared index).map ledger.slot) with
    | error error =>
      obtain ⟨before, name, after, hsplit, hbefore, rfl⟩ :=
        GrammarBuilder.exists_of_boundRules hrules
      obtain ⟨earlier, later, hdeclared, rfl, hlater⟩ := List.map_eq_append_iff.1 hsplit
      obtain ⟨rule, rest, rfl, hslot, -⟩ := List.map_eq_cons_iff.1 hlater
      obtain ⟨rfl, hnone⟩ : rule.name = name ∧ (ledger.bound rule).head? = none :=
        (Slot.mk.injEq ..).mp hslot
      refine .unbound hdistinct hdeclared (fun rule hrule => ?_) (List.head?_eq_none_iff.1 hnone)
      exact Ledger.bound_ne_nil_of_slot (hbefore _ (List.mem_map_of_mem hrule))
    | ok rules =>
      have hbound := GrammarBuilder.slots_of_boundRules hrules
      refine .complete hdistinct (fun rule hrule => ?_) ?_
      · apply Ledger.bound_ne_nil_of_slot
        have hslot : ledger.slot rule ∈ (ledger.declared index).map ledger.slot :=
          List.mem_map_of_mem hrule
        rw [hbound] at hslot
        obtain ⟨_, -, heq⟩ := List.mem_map.1 hslot
        simp [← heq]
      · rw [← hnames, GrammarBuilder.slotNames, hslots, hbound, List.map_map]
        rfl

end Verdict

/-! ### All histories -/

section History

variable {workshop : Workshop β} {ledger : Ledger β} {index : Nat} {builder : GrammarBuilder β}

theorem Keeps.answer_bind_eq (hkeeps : workshop.Keeps ledger)
    (hlive : workshop.builder? index = some builder) {rule : Rule} (hknown : ledger.Knows rule)
    (body : β rule.output) :
    workshop.answer (.bind index rule body) =
      if rule ∈ ledger.declared index then
        if (ledger.bound rule).isEmpty then
          (.bound, workshop.replace index (some { builder with
            slots := builder.slots.set rule.index ⟨rule.name, some ⟨rule.output, body⟩⟩ }))
        else (.refused (.grammar (.alreadyBound rule.name)), workshop)
      else (.refused (.grammar (.foreignRule rule.name)), workshop) := by
  rw [answer_bind hlive, hkeeps.bind_eq hlive hknown]
  by_cases hrule : rule ∈ ledger.declared index
  · simp only [if_pos hrule]
    by_cases hnone : (ledger.bound rule).isEmpty = true
    · simp only [if_pos hnone]
    · simp only [if_neg hnone]
  · simp only [if_neg hrule]

/-- A definition is a declaration and then a binding, which cannot be refused. -/
theorem Keeps.answer_define_eq (hkeeps : workshop.Keeps ledger)
    (hlive : workshop.builder? index = some builder) (name : String) (erased : Erased β) :
    workshop.answer (.define index name erased) =
      (.declared (builder.declare name erased.output).1,
        workshop.replace index (some { (builder.declare name erased.output).2 with
          slots := builder.slots ++ [⟨name, some erased⟩] })) := by
  have hfits : builder.slots.length ≤ Word.limit := by
    rw [hkeeps.length_slots hlive]
    exact hkeeps.fits.rules index
  rw [answer_define hlive, GrammarBuilder.define_eq hfits]

theorem Keeps.define (hkeeps : workshop.Keeps ledger)
    (hlive : workshop.builder? index = some builder) (name : String) (erased : Erased β)
    (hfits : (ledger.declared index).length < Word.limit) :
    (workshop.answer (.define index name erased)).2.Keeps
      ((ledger.declare index (builder.declare name erased.output).1).bind
        (builder.declare name erased.output).1 erased) := by
  rw [hkeeps.answer_define_eq hlive]
  set rule := (builder.declare name erased.output).1
  set declared := (builder.declare name erased.output).2
  have hkeeps' : (workshop.replace index (some declared)).Keeps (ledger.declare index rule) :=
    hkeeps.declare hlive name erased.output hfits
  have hlive' : (workshop.replace index (some declared)).builder? index = some declared := by
    rw [builder?_replace hlive, if_pos rfl]
  have hrule : rule ∈ (ledger.declare index rule).declared index := by
    rw [Ledger.declare_declared, if_pos rfl]
    exact List.mem_append_right _ List.mem_cons_self
  have hfresh : (ledger.declare index rule).bound rule = [] :=
    hkeeps.bound_eq_nil (hkeeps.declare_fresh hlive name erased.output)
  have hbound := hkeeps'.bind hlive' hrule hfresh (rfl : erased.output = rule.output)
  have hindex : rule.index = builder.slots.length := by
    rw [hkeeps.length_slots hlive]
    exact hkeeps.declare_index hlive name erased.output
  have hslots : declared.slots.set rule.index ⟨name, some erased⟩ =
      builder.slots ++ [⟨name, some erased⟩] := by
    have hdeclared : declared.slots = builder.slots ++ [⟨name, none⟩] := rfl
    rw [hindex, hdeclared]
    simp
  rw [show rule.name = name from rfl, hslots] at hbound
  simpa only [replace, List.set_set] using hbound

theorem History.keeps (h : History ledger workshop) : workshop.Keeps ledger := by
  induction h with
  | start => exact .empty
  | @step ledger workshop h request hknown hfits hkeeps =>
    cases request with
    | newBuilder => exact hkeeps.start hfits.builders
    | declare index name output =>
      cases hlive : workshop.builder? index with
      | none =>
        simp only [answer, declare, hlive]
        exact hkeeps
      | some builder =>
        rw [answer_declare hlive] at hfits ⊢
        exact hkeeps.declare hlive name output (Ledger.length_lt_of_declare (hfits.rules index))
    | bind index rule body =>
      cases hlive : workshop.builder? index with
      | none =>
        simp only [answer, bind, hlive]
        exact hkeeps
      | some builder =>
        rw [hkeeps.answer_bind_eq hlive (hknown index rule body rfl)]
        split
        · next hrule =>
          split
          · next hnone => exact hkeeps.bind hlive hrule (List.isEmpty_iff.1 hnone) rfl
          · exact hkeeps
        · exact hkeeps
    | define index name erased =>
      cases hlive : workshop.builder? index with
      | none =>
        simp only [answer, define, hlive]
        exact hkeeps
      | some builder =>
        have hanswer := congrArg Prod.fst (hkeeps.answer_define_eq hlive name erased)
        rw [hanswer] at hfits ⊢
        exact hkeeps.define hlive name erased (Ledger.length_lt_of_declare (hfits.rules index))
    | build index =>
      cases hlive : workshop.builder? index with
      | none =>
        simp only [answer, build, hlive]
        exact hkeeps
      | some builder =>
        rw [answer_build hlive]
        cases hbuild : builder.build with
        | ok grammar => exact hkeeps.publish hlive hbuild
        | error error => exact hkeeps.close hlive

theorem Keeps.exists_builder (hkeeps : workshop.Keeps ledger) (hlive : ledger.live index = true) :
    ∃ builder, workshop.builder? index = some builder := by
  rw [hkeeps.live] at hlive
  exact Option.isSome_iff_exists.1 hlive

/-- **Builders keep to their ledger**, whatever was asked of them and of others before. Declaring
and defining give a new rule of the name and type. A rule is bound if it is the builder's own and
was not bound before; else the error says which of the two is the case, and nothing changes.
Building reports the first repeated name, or else the first rule without a body, or else gives a
grammar with the declared names in order. Of all rules handed out by anyone, a grammar contains
those that its builder declared, and finds for each the one body that was bound to it. -/
theorem history_contract (h : History ledger workshop) :
    (∀ index name output, ledger.live index = true →
      ∃ rule : Rule, rule.name = name ∧ rule.output = output ∧ ¬ ledger.Knows rule ∧
        (workshop.answer (.declare index name output)).1 = .declared rule ∧
        ∀ body : β output,
          (workshop.answer (.define index name ⟨output, body⟩)).1 = .declared rule) ∧
    (∀ index rule body, ledger.live index = true → ledger.Knows rule →
      let answer := workshop.answer (.bind index rule body)
      (answer.1 = .bound ↔ rule ∈ ledger.declared index ∧ ledger.bound rule = []) ∧
        (rule ∉ ledger.declared index →
          answer.1 = .refused (.grammar (.foreignRule rule.name))) ∧
        (rule ∈ ledger.declared index → ledger.bound rule ≠ [] →
          answer.1 = .refused (.grammar (.alreadyBound rule.name))) ∧
        (answer.1 ≠ .bound → answer.2 = workshop)) ∧
    (∀ index, ledger.live index = true →
      Verdict ledger index (workshop.answer (.build index)).1) ∧
    ∀ index grammar, (index, grammar) ∈ ledger.built → ∀ rule, ledger.Knows rule →
      (grammar.contains rule = true ↔ rule ∈ ledger.declared index) ∧
        (rule ∉ ledger.declared index → grammar.body? rule = none) ∧
        (rule ∈ ledger.declared index →
          ∃ body, ledger.bound rule = [⟨rule.output, body⟩] ∧
            grammar.body? rule = some body) := by
  have hkeeps := h.keeps
  refine ⟨?_, ?_, ?_, ?_⟩
  · intro index name output hlive
    obtain ⟨builder, hbuilder⟩ := hkeeps.exists_builder hlive
    refine ⟨(builder.declare name output).1, rfl, rfl, hkeeps.declare_fresh hbuilder name output,
      ?_, fun body => ?_⟩
    · rw [answer_declare hbuilder]
    · rw [hkeeps.answer_define_eq hbuilder]
  · intro index rule body hlive hknown answer
    obtain ⟨builder, hbuilder⟩ := hkeeps.exists_builder hlive
    have hanswer : answer = _ := hkeeps.answer_bind_eq hbuilder hknown body
    rw [hanswer]
    by_cases hrule : rule ∈ ledger.declared index
    · by_cases hnone : ledger.bound rule = []
      · simp [hrule, hnone]
      · simp [hrule, hnone]
    · simp [hrule]
  · intro index hlive
    obtain ⟨builder, hbuilder⟩ := hkeeps.exists_builder hlive
    exact hkeeps.verdict hbuilder
  · intro index grammar hbuilt rule hknown
    exact ⟨hkeeps.contains_iff_of_built hbuilt hknown,
      hkeeps.body?_eq_none_of_built hbuilt hknown, hkeeps.body?_of_built hbuilt⟩

/-- Two builders with a rule of the same name each, but with values of different types. The first
one binds its rule, is asked to bind it again and to bind the other's, and builds; the second one is
then asked to bind both. -/
theorem history_contract_two_builders :
    let own : Rule := ⟨1, 0, "item", 8⟩
    let other : Rule := ⟨2, 0, "item", 10⟩
    ∃ (ledger : Ledger Fin) (workshop : Workshop Fin), History ledger workshop ∧
      ledger.live 1 = true ∧ ledger.Knows own ∧ ledger.Knows other ∧
      (workshop.answer (.bind 1 own (6 : Fin 8))).1 =
        .refused (.grammar (.foreignRule "item")) ∧
      (workshop.answer (.bind 1 other (6 : Fin 10))).1 =
        .refused (.grammar (.alreadyBound "item")) ∧
      ∃ grammar, (0, grammar) ∈ ledger.built ∧ grammar.body? own = some (5 : Fin 8) ∧
        grammar.body? other = none := by
  intro own other
  have hfits : ∀ {ledger : Ledger Fin} {workshop : Workshop Fin},
      workshop.builders.length ≤ 2 ∧ (ledger.declared 0).length ≤ 1 ∧
        (ledger.declared 1).length ≤ 1 → (∀ index, ledger.declared (index + 2) = []) →
          ledger.Fits workshop := by
    rintro ledger workshop ⟨hbuilders, hzero, hone⟩ hrest
    have hlimit : 2 ≤ Word.limit := by decide
    refine ⟨by omega, ?_⟩
    rintro (_ | _ | index)
    · omega
    · rw [Nat.zero_add]
      omega
    · simp [hrest index]
  have hstarted : History _ _ :=
    .step (.step .start .newBuilder nofun (hfits (by decide) fun _ => rfl))
      (.newBuilder : Request Fin) nofun (hfits (by decide) fun _ => rfl)
  have hdeclared := hstarted.step (.declare 0 "item" 8) nofun (hfits (by decide) fun _ => rfl)
  have hdefined := hdeclared.step (.define 1 "item" ⟨10, (7 : Fin 10)⟩) nofun
    (hfits (by decide) fun _ => rfl)
  have hbound := hdefined.step (.bind 0 own (5 : Fin 8))
    (by rintro _ _ _ ⟨⟩; exact ⟨0, by decide⟩) (hfits (by decide) fun _ => rfl)
  have hagain := hbound.step (.bind 0 own (6 : Fin 8))
    (by rintro _ _ _ ⟨⟩; exact ⟨0, by decide⟩) (hfits (by decide) fun _ => rfl)
  have hforeign := hagain.step (.bind 0 other (6 : Fin 10))
    (by rintro _ _ _ ⟨⟩; exact ⟨1, by decide⟩) (hfits (by decide) fun _ => rfl)
  have hbuilt := hforeign.step (.build 0) nofun (hfits (by decide) fun _ => rfl)
  obtain ⟨-, hbind, -, hgrammar⟩ := history_contract hbuilt
  let items : Grammar Fin := ⟨1, [⟨"item", 8, (5 : Fin 8)⟩]⟩
  refine ⟨_, _, hbuilt, rfl, ⟨0, by decide⟩, ⟨1, by decide⟩, ?_, ?_, ?_⟩
  · exact (hbind 1 own (6 : Fin 8) rfl ⟨0, by decide⟩).2.1 (by decide)
  · refine (hbind 1 other (6 : Fin 10) rfl ⟨1, by decide⟩).2.2.1 (by decide) ?_
    exact List.cons_ne_nil (⟨10, (7 : Fin 10)⟩ : Erased Fin) []
  · obtain ⟨-, -, hown⟩ := hgrammar 0 items List.mem_cons_self own ⟨0, by decide⟩
    obtain ⟨-, hother, -⟩ := hgrammar 0 items List.mem_cons_self other ⟨1, by decide⟩
    obtain ⟨body, hbody, hfound⟩ := hown (by decide)
    have hfive : [(⟨8, (5 : Fin 8)⟩ : Erased Fin)] = [⟨8, body⟩] := hbody
    obtain rfl : (5 : Fin 8) = body := by
      cases hfive
      rfl
    exact ⟨items, List.mem_cons_self, hfound, hother (by decide)⟩

end History

end Workshop

end TokenGrammar
