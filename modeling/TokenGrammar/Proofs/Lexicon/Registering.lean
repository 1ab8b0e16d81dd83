import TokenGrammar.Proofs.Lexicon.Restart

/-!
# Adding definitions

Definitions are added one by one, and a request for one may be refused. What was defined before
stays where it is: a new definition goes to the end, and it is asked only where none of the earlier
ones matches. So a scan changes only from the offset on where it found no definition before. All of
this holds for every engine, whatever patterns it accepts and wherever they match.
-/

namespace TokenGrammar

theorem Definition.tag_pattern_of_make {engine : Engine} {tag pattern : String}
    {definition : Definition} (h : make engine tag pattern = .ok definition) :
    definition.tag = tag ∧ definition.pattern = pattern := by
  unfold make at h
  split at h
  · cases h
  · split at h
    · cases h
    · cases h
      exact ⟨rfl, rfl⟩

namespace Lexicon

/-! ### Requests -/

/-- What is asked of a lexicon: one more definition, with a reader for the texts of its tokens or
with the texts as values. -/
inductive Request : Type 1 where
  | define {α : Type} (tag pattern : String) (read : String → Option α)
  | defineText (tag pattern : String)

namespace Request

def tag : Request → String
  | define tag _ _ => tag
  | defineText tag _ => tag

def pattern : Request → String
  | define _ pattern _ => pattern
  | defineText _ pattern => pattern

/-- The kind that the request asks for, with the id of its definition. -/
def kind (id : Serial) : Request → Σ α : Type, Kind α
  | @define α tag _ read => ⟨α, id, tag, read⟩
  | defineText tag _ => ⟨String, id, tag, some⟩

/-- The definition that the request asks for, unless it is refused. -/
def definition? (engine : Engine) (request : Request) : Option Definition :=
  (Definition.make engine request.tag request.pattern).toOption

end Request

/-- What a caller holds after a call: the kind it got and the new lexicon, or an error and the
lexicon from before. -/
def settled {α : Type} (before : Lexicon) :
    Except DefinitionError (Kind α × Lexicon) →
      Except DefinitionError (Σ α : Type, Kind α) × Lexicon
  | .ok (kind, after) => (.ok ⟨α, kind⟩, after)
  | .error error => (.error error, before)

def answer (lexicon : Lexicon) (engine : Engine) :
    Request → Except DefinitionError (Σ α : Type, Kind α) × Lexicon
  | .define tag pattern read => lexicon.settled (lexicon.define tag pattern read engine)
  | .defineText tag pattern => lexicon.settled (lexicon.defineText tag pattern engine)

/-- The lexicon after some requests, one after the other. -/
def after (lexicon : Lexicon) (engine : Engine) (requests : List Request) : Lexicon :=
  requests.foldl (fun lexicon request => (lexicon.answer engine request).2) lexicon

section Answer

variable (lexicon : Lexicon) (engine : Engine)

theorem settled_define {α : Type} (tag pattern : String) (read : String → Option α) :
    lexicon.settled (lexicon.define tag pattern read engine) =
      match Definition.make engine tag pattern with
      | .ok definition =>
        (.ok ⟨α, .ofIndex lexicon.size, tag, read⟩, ⟨lexicon.definitions ++ [definition]⟩)
      | .error error => (.error error, lexicon) := by
  unfold define
  cases Definition.make engine tag pattern <;> rfl

/-- **One request.** It adds its definition at the end, or changes nothing. -/
theorem answer_eq (request : Request) :
    lexicon.answer engine request =
      match Definition.make engine request.tag request.pattern with
      | .ok definition =>
        (.ok (request.kind (.ofIndex lexicon.size)), ⟨lexicon.definitions ++ [definition]⟩)
      | .error error => (.error error, lexicon) := by
  cases request with
  | define tag pattern read => exact lexicon.settled_define engine tag pattern read
  | defineText tag pattern => exact lexicon.settled_define engine tag pattern some

theorem definitions_answer (request : Request) :
    (lexicon.answer engine request).2.definitions =
      lexicon.definitions ++ (request.definition? engine).toList := by
  rw [answer_eq, Request.definition?]
  cases Definition.make engine request.tag request.pattern with
  | ok definition => rfl
  | error error => exact (List.append_nil _).symm

/-- **Any number of requests** adds the definitions that were not refused, in their order. -/
theorem definitions_after (requests : List Request) :
    (lexicon.after engine requests).definitions =
      lexicon.definitions ++ requests.filterMap (Request.definition? engine) := by
  induction requests generalizing lexicon with
  | nil => exact (List.append_nil _).symm
  | cons request rest ih =>
    have hrest : (lexicon.after engine (request :: rest)).definitions =
        (lexicon.answer engine request).2.definitions ++
          rest.filterMap (Request.definition? engine) := ih (lexicon.answer engine request).2
    rw [hrest, definitions_answer, List.append_assoc, List.filterMap_cons]
    cases request.definition? engine <;> rfl

theorem after_append (first second : List Request) :
    lexicon.after engine (first ++ second) = (lexicon.after engine first).after engine second :=
  List.foldl_append

end Answer

/-! ### Lookups and scans under more definitions -/

theorem StopsFor.offset_eq {lexicon : Lexicon} {stop : Nat} {final : List Char} {error : ScanError}
    (h : lexicon.StopsFor stop final (some error)) : error.offset = stop := by
  cases error with
  | noMatch | zeroWidthMatch => exact h.2.1
  | sourceTooLarge => exact h.elim

section More

variable {lexicon extended : Lexicon} (hfront : lexicon.definitions <+: extended.definitions)

include hfront

theorem getElem?_of_front {index : Nat} {definition : Definition}
    (h : lexicon.definitions[index]? = some definition) :
    extended.definitions[index]? = some definition := by
  obtain ⟨more, hmore⟩ := hfront
  obtain ⟨hlt, -⟩ := List.getElem?_eq_some_iff.1 h
  rw [← hmore, List.getElem?_append_left hlt, h]

/-- The first definition that matches stays the first: later ones are behind it. -/
theorem Wins.extend {text : List Char} {probe : Probe} (h : lexicon.Wins text probe) :
    extended.Wins text probe := by
  cases h with
  | @first index length winner hwinner hmatch hearlier =>
    refine .first (getElem?_of_front hfront hwinner) hmatch ?_
    intro earlier definition hlt hdefinition
    apply hearlier earlier definition hlt
    obtain ⟨more, hmore⟩ := hfront
    obtain ⟨hbound, -⟩ := List.getElem?_eq_some_iff.1 hwinner
    rwa [← hmore, List.getElem?_append_left (by omega)] at hdefinition

theorem Cuts.extend {offset stop : Nat} {text final : List Char} {tokens : List Token}
    (h : lexicon.Cuts offset text tokens stop final) :
    extended.Cuts offset text tokens stop final := by
  induction h with
  | done => exact .done _ _
  | token hwins hnonempty _ ih => exact .token (hwins.extend hfront) hnonempty ih

/-- Where a scan stopped, it goes on under more definitions. -/
theorem emitted_extend {source : String} {stop : Nat} {final : List Char}
    (hsize : source.utf8ByteSize ≤ sourceLimit)
    (hcuts : lexicon.Cuts 0 source.toList (lexicon.emitted source) stop final) :
    ∃ more, extended.emitted source = lexicon.emitted source ++ more ∧
      (∀ token ∈ more, stop ≤ token.span.start.toNat) ∧
      ∀ error, extended.scan source = .error error → stop ≤ error.offset := by
  obtain ⟨stop', final', hmore, hstops⟩ := extended.scanFrom_cuts (Nat.le_refl final.length) stop
  have hall := (hcuts.extend hfront).trans hmore
  have hwhole := scanFrom_of_cuts hall hstops (Nat.le_refl source.toList.length)
  have hstop' : stop' ≤ sourceLimit := by
    have := hall.slice_final.2
    omega
  refine ⟨_, by rw [emitted, hwhole], fun token hmem => ?_, fun error herror => ?_⟩
  · exact (hmore.bounds hstop' token hmem).1
  · rw [scan_eq_result extended hsize, hwhole, Scan.result] at herror
    split at herror
    · next error' herror' =>
      cases herror
      rw [herror'] at hstops
      rw [hstops.offset_eq]
      exact hmore.le
    · cases herror

/-- **Scans under more definitions.** A scan that came to the end does so with the same tokens, and
one that found an empty match finds it again. One that found no definition has the same tokens
before that offset, and stops there or later if it does not come to the end. -/
theorem scan_extend (source : String) :
    match lexicon.scan source with
    | .ok sequence => extended.scan source = .ok sequence
    | .error (.noMatch offset _) =>
      lexicon.Tiles source (lexicon.emitted source) offset ∧
      (∃ more, extended.emitted source = lexicon.emitted source ++ more ∧
        ∀ token ∈ more, offset ≤ token.span.start.toNat) ∧
      match extended.scan source with
      | .ok sequence => sequence.tokens.toList = extended.emitted source
      | .error error => offset ≤ error.offset
    | .error error => extended.scan source = .error error := by
  by_cases hsize : source.utf8ByteSize ≤ sourceLimit
  · obtain ⟨stop, final, hcuts, hstops⟩ :=
      lexicon.scanFrom_cuts (Nat.le_refl source.toList.length) 0
    generalize herror : (lexicon.scanFrom source.toList.length 0 source.toList).error? = error?
      at hstops
    have hwhole : lexicon.scanFrom source.toList.length 0 source.toList =
        ⟨lexicon.emitted source, error?⟩ := by
      rw [← herror]
      rfl
    have hscan : lexicon.scan source = (Scan.result ⟨lexicon.emitted source, error?⟩).map
        fun tokens => ⟨tokens.toArray, source.utf8ByteSize⟩ := by
      rw [scan_eq_result lexicon hsize, hwhole]
    -- A reason to stop that holds under all definitions stops the scan with the same tokens.
    have hsame : extended.StopsFor stop final error? →
        extended.scan source = lexicon.scan source := by
      intro hstops'
      rw [hscan, scan_eq_result extended hsize,
        scanFrom_of_cuts (hcuts.extend hfront) hstops' (Nat.le_refl _)]
      rfl
    cases error? with
    | none =>
      rw [hscan]
      exact (hsame hstops).trans hscan
    | some error =>
      cases error with
      | noMatch offset remaining =>
        obtain ⟨more, hemitted, hlater, hoffset⟩ := emitted_extend hfront hsize hcuts
        obtain ⟨-, rfl, -⟩ := hstops
        rw [hscan]
        refine ⟨hcuts.tiles hsize, ⟨more, hemitted, hlater⟩, ?_⟩
        cases hextended : extended.scan source with
        | ok sequence => rw [eq_of_scan hextended, emitted]
        | error error => exact hoffset error hextended
      | zeroWidthMatch tag offset =>
        obtain ⟨hnonempty, rfl, id, hwins⟩ := hstops
        rw [hscan]
        exact (hsame ⟨hnonempty, rfl, id, hwins.extend hfront⟩).trans hscan
      | sourceTooLarge size => exact hstops.elim
  · have hlarge : source.utf8ByteSize > sourceLimit := Nat.lt_of_not_le hsize
    have hrefused : ∀ any : Lexicon,
        any.scan source = .error (.sourceTooLarge source.utf8ByteSize) := fun any => if_pos hlarge
    rw [hrefused lexicon]
    exact hrefused extended

theorem tag?_of_front {id : Serial} {tag : String} (h : lexicon.tag? id = some tag) :
    extended.tag? id = some tag := by
  obtain ⟨definition, hdefinition, htag⟩ := Option.map_eq_some_iff.1 h
  rw [tag?, getElem?_of_front hfront hdefinition, Option.map_some, htag]

theorem pattern?_of_front {id : Serial} {pattern : String}
    (h : lexicon.pattern? id = some pattern) : extended.pattern? id = some pattern := by
  obtain ⟨definition, hdefinition, hpattern⟩ := Option.map_eq_some_iff.1 h
  rw [pattern?, getElem?_of_front hfront hdefinition, Option.map_some, hpattern]

theorem lookups_of_front {id : Serial} (h : id.index < lexicon.size) :
    extended.tag? id = lexicon.tag? id ∧ extended.pattern? id = lexicon.pattern? id := by
  have hdefinition : lexicon.definitions[id.index]? = some _ := List.getElem?_eq_getElem h
  simp only [tag?, pattern?, hdefinition, getElem?_of_front hfront hdefinition, and_self]

end More

theorem front_after (lexicon : Lexicon) (engine : Engine) (requests : List Request) :
    lexicon.definitions <+: (lexicon.after engine requests).definitions := by
  rw [definitions_after]
  exact List.prefix_append _ _

/-- A kind that was given out finds its tag and pattern, if its index fits, and finds the same
whatever is asked for afterwards. -/
theorem lookups_after {lexicon : Lexicon} {engine : Engine} {request : Request}
    {definition : Definition}
    (hmake : Definition.make engine request.tag request.pattern = .ok definition)
    (later : List Request) :
    let id := Serial.ofIndex lexicon.size
    let issued := (lexicon.answer engine request).2
    let extended := lexicon.after engine (request :: later)
    extended.tag? id = issued.tag? id ∧ extended.pattern? id = issued.pattern? id ∧
      (lexicon.size ≤ Word.limit → id.index = lexicon.size ∧
        issued.tag? id = some request.tag ∧ issued.pattern? id = some request.pattern) := by
  intro id issued extended
  obtain ⟨htag, hpattern⟩ := Definition.tag_pattern_of_make hmake
  have hissued : issued.definitions = lexicon.definitions ++ [definition] := by
    change (lexicon.answer engine request).2.definitions = _
    rw [answer_eq, hmake]
  have hid : id.index = min lexicon.size Word.limit := Serial.index_ofIndex lexicon.size
  have hlt : id.index < issued.size := by
    rw [size, hissued, List.length_append, List.length_singleton, hid, size]
    omega
  have hfront : issued.definitions <+: extended.definitions := issued.front_after engine later
  obtain ⟨htags, hpatterns⟩ := lookups_of_front hfront hlt
  refine ⟨htags, hpatterns, fun hfits => ?_⟩
  have hindex : id.index = lexicon.size := by
    rw [hid, Nat.min_eq_left hfits]
  have hlast : issued.definitions[id.index]? = some definition := by
    rw [hissued, hindex]
    exact List.getElem?_concat_length
  exact ⟨hindex, by rw [tag?, hlast, Option.map_some, htag],
    by rw [pattern?, hlast, Option.map_some, hpattern]⟩

/-- **Adding definitions leaves the others alone.** After any requests a lexicon has the definitions
from before, and behind them those that were not refused. A request that is not refused gets the id
of the next free index for its kind. If that fits a word, the kind finds its tag and pattern there;
what it finds stays the same ever after, as for all kinds from before. A request that is refused
changes nothing. Scans that came to the end or to an empty match are the same as before. A scan that
found no definition at some offset has the same tokens up to there, and the rest of them and its
error, if there still is one, come at that offset or later. -/
theorem requests_extend (engine : Engine) (lexicon : Lexicon) (requests : List Request) :
    let extended := lexicon.after engine requests
    extended.definitions =
      lexicon.definitions ++ requests.filterMap (Request.definition? engine) ∧
    (∀ before request later, requests = before ++ request :: later →
      let current := lexicon.after engine before
      let issued := (current.answer engine request).2
      let id := Serial.ofIndex current.size
      match Definition.make engine request.tag request.pattern with
      | .ok _ =>
        (current.answer engine request).1 = .ok (request.kind id) ∧
          current.size =
            lexicon.size + (before.filterMap (Request.definition? engine)).length ∧
          extended.tag? id = issued.tag? id ∧ extended.pattern? id = issued.pattern? id ∧
          (current.size ≤ Word.limit → id.index = current.size ∧
            issued.tag? id = some request.tag ∧ issued.pattern? id = some request.pattern)
      | .error error => current.answer engine request = (.error error, current)) ∧
    (∀ id tag, lexicon.tag? id = some tag → extended.tag? id = some tag) ∧
    (∀ id pattern, lexicon.pattern? id = some pattern → extended.pattern? id = some pattern) ∧
    ∀ source,
      match lexicon.scan source with
      | .ok sequence => extended.scan source = .ok sequence
      | .error (.noMatch offset _) =>
        lexicon.Tiles source (lexicon.emitted source) offset ∧
        (∃ more, extended.emitted source = lexicon.emitted source ++ more ∧
          ∀ token ∈ more, offset ≤ token.span.start.toNat) ∧
        match extended.scan source with
        | .ok sequence => sequence.tokens.toList = extended.emitted source
        | .error error => offset ≤ error.offset
      | .error error => extended.scan source = .error error := by
  intro extended
  have hfront : lexicon.definitions <+: extended.definitions :=
    lexicon.front_after engine requests
  refine ⟨lexicon.definitions_after engine requests, ?_, fun _ _ => tag?_of_front hfront,
    fun _ _ => pattern?_of_front hfront, scan_extend hfront⟩
  intro before request later hrequests current issued id
  have hextended : extended = current.after engine (request :: later) := by
    rw [← after_append, ← hrequests]
  cases hmake : Definition.make engine request.tag request.pattern with
  | ok definition =>
    have hsize : current.size =
        lexicon.size + (before.filterMap (Request.definition? engine)).length := by
      rw [size, definitions_after, List.length_append, size]
    have hkind : (current.answer engine request).1 = .ok (request.kind id) := by
      rw [answer_eq, hmake]
    rw [hextended]
    exact ⟨hkind, hsize, lookups_after hmake later⟩
  | error error =>
    change current.answer engine request = (.error error, current)
    rw [answer_eq, hmake]

/-- A lexicon with letters is asked for a group that is not closed, for digits, and for a pattern
that matches the empty text. Only the digits are added, and a scan that stopped in front of one goes
on. -/
theorem requests_extend_with_digits :
    let lexicon := empty.after .standard [.defineText "letter" "[a-z]"]
    let requests : List Request :=
      [.defineText "group" "(", .define "digit" "[0-9]" String.toNat?, .defineText "blank" " *"]
    let extended := lexicon.after .standard requests
    lexicon.size = 1 ∧ extended.size = 2 ∧
      extended.tag? 0 = some "letter" ∧ extended.pattern? 1 = some "[0-9]" ∧
      lexicon.scan "a1?" = .error (.noMatch 1 "1?") ∧
      ∃ more, extended.emitted "a1?" = ⟨0, "letter", "a", .ofOffsets 0 1⟩ :: more ∧
        ∀ token ∈ more, 1 ≤ token.span.start.toNat := by
  intro lexicon requests extended
  have hscan : lexicon.scan "a1?" = .error (.noMatch 1 "1?") := by rfl
  obtain ⟨hdefinitions, hrequests, htags, -, hscans⟩ :=
    requests_extend .standard lexicon requests
  have hsize : extended.size = 2 := by
    rw [size, hdefinitions]
    rfl
  -- The group is refused before, so the digits come right behind the letters.
  obtain ⟨-, hplace, -, hsame, hfits⟩ :=
    hrequests [.defineText "group" "("] (.define "digit" "[0-9]" String.toNat?) _ rfl
  have hnext : (lexicon.after .standard [.defineText "group" "("]).size = 1 := by
    rw [hplace]
    rfl
  rw [hnext] at hsame hfits
  have hscanned := hscans "a1?"
  rw [hscan] at hscanned
  exact ⟨rfl, hsize, htags 0 "letter" rfl, hsame.trans (hfits (by decide)).2.2, hscan,
    hscanned.2.1⟩

end Lexicon

end TokenGrammar
