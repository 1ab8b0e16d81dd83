import TokenGrammar.Proofs.Session

/-!
# Rule entries

The rules that an attempt enters, with the positions, in the order of the trace. The entries of a
combinator are those of the components that it tries, one after the other, and they stay in the
trace when an attempt is given up.
-/

namespace TokenGrammar

def Event.entry? : Event → Option (String × Nat)
  | enteredRule name position => some (name, position)
  | _ => none

/-- The rule entries so far, oldest first. -/
def Progress.entries (progress : Progress) : List (String × Nat) :=
  progress.events.reverse.filterMap Event.entry?

theorem Progress.entries_record (progress : Progress) (event : Event) :
    (progress.record event).entries = progress.entries ++ event.entry?.toList := by
  simp only [entries, record, List.reverse_cons, List.filterMap_append, List.filterMap_cons,
    List.filterMap_nil]
  cases event.entry? <;> rfl

namespace Attempt

variable {α β : Type}

/-- The attempt adds the entries to the trace, whatever its outcome is. -/
def Enters (attempt : Attempt α) (entries : List (String × Nat)) : Prop :=
  ∀ progress, (attempt progress).2.entries = progress.entries ++ entries

namespace Enters

variable {attempt : Attempt α} {onMatch : α → Nat → Attempt β} {onFailure : Attempt β}
  {entries entries' : List (String × Nat)} {value : α} {next reach : Nat}

theorem matched (value : α) (next : Nat) : (Attempt.matched value next).Enters [] :=
  fun progress => (List.append_nil progress.entries).symm

theorem failed : (Attempt.failed : Attempt α).Enters [] :=
  fun progress => (List.append_nil progress.entries).symm

theorem exhausted : (Attempt.exhausted : Attempt α).Enters [] :=
  fun progress => (List.append_nil progress.entries).symm

theorem refused (position : Nat) : (Attempt.refused position : Attempt α).Enters [] :=
  fun progress => (List.append_nil progress.entries).symm

theorem after (event : Event) (h : attempt.Enters entries) :
    (attempt.after event).Enters (event.entry?.toList ++ entries) := by
  intro progress
  rw [Attempt.after, h (progress.record event), Progress.entries_record, List.append_assoc]

theorem resume_of_matched (h : attempt.Enters entries)
    (hgives : attempt.Gives (.matched value next) reach)
    (h' : (onMatch value next).Enters entries') :
    (attempt.resume onMatch onFailure).Enters (entries ++ entries') := by
  intro progress
  have hentries := h progress
  obtain ⟨middle, hattempt, -⟩ := hgives.exists_progress progress
  rw [hattempt] at hentries
  simp only [Attempt.resume, hattempt]
  rw [h' middle, hentries, List.append_assoc]

theorem resume_of_failed (h : attempt.Enters entries) (hgives : attempt.Gives .failed reach)
    (h' : onFailure.Enters entries') :
    (attempt.resume onMatch onFailure).Enters (entries ++ entries') := by
  intro progress
  have hentries := h progress
  obtain ⟨middle, hattempt, -⟩ := hgives.exists_progress progress
  rw [hattempt] at hentries
  simp only [Attempt.resume, hattempt]
  rw [h' middle, hentries, List.append_assoc]

/-- What enters no rule may follow whatever the outcome is. -/
theorem resume (h : attempt.Enters entries) (hmatch : ∀ value next, (onMatch value next).Enters [])
    (hfail : onFailure.Enters []) : (attempt.resume onMatch onFailure).Enters entries := by
  intro progress
  rw [← h progress]
  unfold Attempt.resume
  split
  · next heq => rw [hmatch, List.append_nil, heq]
  · next heq => rw [hfail, List.append_nil, heq]
  · next heq => rw [heq]

theorem map (f : α → β) (h : attempt.Enters entries) : (attempt.map f).Enters entries :=
  h.resume (fun value next => matched (f value) next) failed

theorem enter (name : String) (cursor : Nat) (h : attempt.Enters entries) :
    (Parser.enter name cursor attempt).Enters ((name, cursor) :: entries) := by
  apply after
  apply h.resume
  · intro value next
    exact (matched value next).after (.leftRule name true next)
  · exact failed.after (.leftRule name false cursor)

theorem chain {attempt : Nat → Attempt Unit} (h : ∀ cursor, (attempt cursor).Enters [])
    (rounds cursor : Nat) : (Attempt.chain attempt rounds cursor).Enters [] := by
  induction rounds generalizing cursor with
  | zero => exact exhausted
  | succ rounds ih =>
    refine (h cursor).resume (fun _ next => ?_) (matched () cursor)
    split
    · exact ih next
    · exact matched () cursor

end Enters

end Attempt

namespace Parser

variable {ρ : Nat → Type} {α β : Type}

theorem take_enters (setting : Setting ρ) (wanted : Primitive α) (cursor : Nat) :
    (take setting wanted cursor).Enters [] := by
  unfold take
  split
  · exact .refused cursor
  · split
    · exact .refused cursor
    · exact (Attempt.Enters.matched _ _).after _

def EntersNothing (setting : Setting ρ) (parser : Parser ρ α) : Prop :=
  ∀ fuel cursor, (parser.run fuel setting cursor).Enters []

namespace EntersNothing

variable {setting : Setting ρ} {first second : Parser ρ α}

theorem of_succ (h : ∀ fuel cursor, (first.run (fuel + 1) setting cursor).Enters []) :
    first.EntersNothing setting := by
  intro fuel cursor
  cases fuel with
  | zero => exact .exhausted
  | succ fuel => exact h fuel cursor

theorem primitive (hskip : ∀ fuel cursor, (skipFrom fuel setting cursor).Enters [])
    (wanted : Primitive α) : (primitive wanted).EntersNothing setting := by
  refine of_succ fun fuel cursor => ?_
  rw [run_primitive]
  exact (hskip fuel cursor).resume (fun _ start => take_enters setting wanted start) .failed

theorem discard (h : first.EntersNothing setting) : (discard first).EntersNothing setting := by
  refine of_succ fun fuel cursor => ?_
  rw [run_discard]
  exact (h fuel cursor).map _

theorem alt (h : first.EntersNothing setting) (h' : second.EntersNothing setting) :
    (alt first second).EntersNothing setting := by
  refine of_succ fun fuel cursor => ?_
  rw [run_alt]
  exact (h fuel cursor).resume .matched (h' fuel cursor)

end EntersNothing

theorem TakesOne.skipFrom_enters {skip : Parser ρ Unit} {passed : Token → Bool}
    (htakes : skip.TakesOne passed) {setting : Setting ρ} (hskip : setting.skip? = some skip)
    (fuel cursor : Nat) : (skipFrom fuel setting cursor).Enters [] := by
  rw [skipFrom_of_some hskip]
  refine .chain (fun cursor => ?_) fuel cursor
  have hnone : ∀ fuel cursor, (skipFrom fuel setting.withoutSkip cursor).Enters [] :=
    fun _ cursor => .matched () cursor
  cases htakes with
  | primitive wanted => exact EntersNothing.primitive hnone wanted fuel cursor
  | discard wanted => exact (EntersNothing.primitive hnone wanted).discard fuel cursor

/-- With enough fuel, the parser adds the entries to the trace. -/
def Enters (setting : Setting ρ) (parser : Parser ρ α) (cursor : Nat)
    (entries : List (String × Nat)) : Prop :=
  ∃ least, ∀ fuel, least ≤ fuel → (parser.run fuel setting cursor).Enters entries

namespace Enters

variable {setting : Setting ρ} {first : Parser ρ α} {second : Parser ρ β}
  {cursor middle next reach : Nat} {left : α} {entries entries' : List (String × Nat)}

theorem of_entersNothing (h : first.EntersNothing setting) (cursor : Nat) :
    first.Enters setting cursor [] :=
  ⟨0, fun fuel _ => h fuel cursor⟩

theorem of_succ (least : Nat)
    (h : ∀ fuel, least ≤ fuel → (first.run (fuel + 1) setting cursor).Enters entries) :
    first.Enters setting cursor entries := by
  refine ⟨least + 1, fun fuel hfuel => ?_⟩
  obtain ⟨fuel, rfl⟩ : ∃ n, fuel = n + 1 := ⟨fuel - 1, by omega⟩
  exact h fuel (by omega)

theorem map (f : α → β) (h : first.Enters setting cursor entries) :
    (map f first).Enters setting cursor entries := by
  obtain ⟨least, h⟩ := h
  refine of_succ least fun fuel hfuel => ?_
  rw [run_map]
  exact (h fuel hfuel).map f

theorem optional (h : first.Enters setting cursor entries) :
    (optional first).Enters setting cursor entries := by
  obtain ⟨least, h⟩ := h
  refine of_succ least fun fuel hfuel => ?_
  rw [run_optional]
  exact ((h fuel hfuel).map some).resume .matched (.matched none cursor)

theorem seq (h : first.Enters setting cursor entries)
    (hfirst : first.Answers setting cursor (.matched left middle) reach)
    (h' : second.Enters setting middle entries') :
    (seq first second).Enters setting cursor (entries ++ entries') := by
  obtain ⟨least, h⟩ := h
  obtain ⟨least', h'⟩ := h'
  obtain ⟨enough, hfirst⟩ := hfirst
  refine of_succ (max enough (max least least')) fun fuel hfuel => ?_
  rw [run_seq]
  exact (h fuel (by omega)).resume_of_matched (hfirst fuel (by omega)) ((h' fuel (by omega)).map _)

theorem seq_of_failed (second : Parser ρ β) (h : first.Enters setting cursor entries)
    (hfirst : first.Answers setting cursor .failed reach) :
    (Parser.seq first second).Enters setting cursor entries := by
  obtain ⟨least, h⟩ := h
  obtain ⟨enough, hfirst⟩ := hfirst
  refine of_succ (max enough least) fun fuel hfuel => ?_
  rw [run_seq, ← List.append_nil entries]
  exact (h fuel (by omega)).resume_of_failed (hfirst fuel (by omega)) .failed

theorem ignoreThen (h : first.Enters setting cursor entries)
    (hfirst : first.Answers setting cursor (.matched left middle) reach)
    (h' : second.Enters setting middle entries') :
    (ignoreThen first second).Enters setting cursor (entries ++ entries') := by
  obtain ⟨least, h⟩ := h
  obtain ⟨least', h'⟩ := h'
  obtain ⟨enough, hfirst⟩ := hfirst
  refine of_succ (max enough (max least least')) fun fuel hfuel => ?_
  rw [run_ignoreThen]
  exact (h fuel (by omega)).resume_of_matched (hfirst fuel (by omega)) (h' fuel (by omega))

theorem ignoreThen_of_failed (second : Parser ρ β) (h : first.Enters setting cursor entries)
    (hfirst : first.Answers setting cursor .failed reach) :
    (Parser.ignoreThen first second).Enters setting cursor entries := by
  obtain ⟨least, h⟩ := h
  obtain ⟨enough, hfirst⟩ := hfirst
  refine of_succ (max enough least) fun fuel hfuel => ?_
  rw [run_ignoreThen, ← List.append_nil entries]
  exact (h fuel (by omega)).resume_of_failed (hfirst fuel (by omega)) .failed

/-- If the second component enters no rules, it does not matter whether it is tried. -/
theorem thenIgnore (h : first.Enters setting cursor entries)
    (h' : second.EntersNothing setting) :
    (thenIgnore first second).Enters setting cursor entries := by
  obtain ⟨least, h⟩ := h
  refine of_succ least fun fuel hfuel => ?_
  rw [run_thenIgnore]
  exact (h fuel hfuel).resume (fun _ middle => (h' fuel middle).map _) .failed

theorem alt (second : Parser ρ α) (h : first.Enters setting cursor entries)
    (hfirst : first.Answers setting cursor (.matched left next) reach) :
    (alt first second).Enters setting cursor entries := by
  obtain ⟨least, h⟩ := h
  obtain ⟨enough, hfirst⟩ := hfirst
  refine of_succ (max enough least) fun fuel hfuel => ?_
  rw [run_alt, ← List.append_nil entries]
  exact (h fuel (by omega)).resume_of_matched (hfirst fuel (by omega)) (.matched left next)

theorem alt_of_failed {second : Parser ρ α} (h : first.Enters setting cursor entries)
    (hfirst : first.Answers setting cursor .failed reach)
    (h' : second.Enters setting cursor entries') :
    (Parser.alt first second).Enters setting cursor (entries ++ entries') := by
  obtain ⟨least, h⟩ := h
  obtain ⟨least', h'⟩ := h'
  obtain ⟨enough, hfirst⟩ := hfirst
  refine of_succ (max enough (max least least')) fun fuel hfuel => ?_
  rw [run_alt]
  exact (h fuel (by omega)).resume_of_failed (hfirst fuel (by omega)) (h' fuel (by omega))

theorem rule {handle : Rule} {body : Parser ρ (ρ handle.output)}
    (hbody : setting.grammar.body? handle = some body)
    (h : body.Enters setting cursor entries) :
    (rule handle).Enters setting cursor ((handle.name, cursor) :: entries) := by
  obtain ⟨least, h⟩ := h
  refine of_succ least fun fuel hfuel => ?_
  rw [run_rule, hbody]
  exact (h fuel hfuel).enter handle.name cursor

end Enters

end Parser

namespace Session

variable {ρ : Nat → Type} {α : Type} {session : Session ρ} {parser : Parser ρ α}
  {skip? : Option (Parser ρ Unit)}

theorem parseAll_entries (session : Session ρ) (parser : Parser ρ α)
    (skip? : Option (Parser ρ Unit)) :
    let fuel := session.allowance parser skip?
    let setting := Setting.new session.tokens session.tokens.size session.grammar skip?
    let attempt := (parser.run fuel setting 0).andThen fun value next =>
      (Parser.skipFrom fuel setting next).map fun _ => value
    (session.parseAll parser skip?).events.filterMap Event.entry? =
      (attempt ⟨0, []⟩).2.entries := by
  intro fuel setting attempt
  simp only [parseAll, attempt, fuel, setting]
  generalize (Attempt.andThen _ _ : Attempt α) ⟨0, []⟩ = result
  obtain ⟨outcome, progress⟩ := result
  have hfailed : ∀ message, (progress.record (.parseFailed message)).events.reverse.filterMap
      Event.entry? = progress.entries := by
    intro message
    rw [← Progress.entries, Progress.entries_record]
    exact List.append_nil _
  cases outcome with
  | matched value rest =>
    simp only
    split
    · rfl
    · exact hfailed _
  | failed => exact hfailed _
  | exhausted => exact hfailed _

/-- Where skipping enters no rule, the entries of an attempt at all tokens are the parser's. -/
theorem parseAll_entries_of_enters (hgrammar : session.grammar.IsLibrary)
    (hparser : parser.IsLibrary) (hskip : ∀ skip, skip? = some skip → skip.IsLibrary)
    (hhalts : parser.Halts
      (Setting.new session.tokens session.tokens.size session.grammar skip?) 0)
    (hquiet : ∀ fuel cursor, (Parser.skipFrom fuel
      (Setting.new session.tokens session.tokens.size session.grammar skip?) cursor).Enters [])
    {entries : List (String × Nat)}
    (henters : parser.Enters
      (Setting.new session.tokens session.tokens.size session.grammar skip?) 0 entries) :
    (session.parseAll parser skip?).events.filterMap Event.entry? = entries := by
  obtain ⟨least, henters⟩ := henters
  have hallowed : (parser.run (session.allowance parser skip?)
      (Setting.new session.tokens session.tokens.size session.grammar skip?) 0).Enters entries := by
    intro progress
    rw [← (run_allowance_le hgrammar hparser hskip hhalts (Nat.le_max_left _ least) progress).2]
    exact henters _ (Nat.le_max_right _ least) progress
  rw [parseAll_entries]
  exact hallowed.resume (fun _ next => (hquiet _ next).map _) .failed ⟨0, []⟩

end Session

end TokenGrammar
