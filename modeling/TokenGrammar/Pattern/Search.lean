import TokenGrammar.Pattern.Basic

/-!
# Matching a pattern

`Pattern.ends` lists the places where a match from a given place can end, the preferred one first
and each at most once. `Pattern.find?` takes the first place where a match begins and the preferred
end there.
-/

namespace TokenGrammar

namespace Place

def mem (place : Place) (places : List Place) : Bool := places.any (·.index == place.index)

def distinct (places : List Place) : List Place :=
  (places.foldl (fun seen place => if place.mem seen then seen else place :: seen) []).reverse

@[simp] theorem distinct_nil : distinct [] = [] := rfl

end Place

namespace Pattern

abbrev Ends := Place → List Place

def Ends.andThen (first second : Ends) : Ends := fun place =>
  match first place with
  | [middle] => second middle
  | middles => Place.distinct (middles.flatMap second)

def Ends.orElse (first second : Ends) : Ends := fun place =>
  Place.distinct (first place ++ second place)

def Ends.times (body : Ends) : Nat → Ends
  | 0 => fun place => [place]
  | count + 1 => body.andThen (body.times count)

/-- One more time or not, preferring one more if `greedy`. -/
def Ends.perhaps (body : Ends) (greedy : Bool) : Ends :=
  if greedy then body.orElse fun place => [place] else Ends.orElse (fun place => [place]) body

def Ends.upTo (body : Ends) (greedy : Bool) : Nat → Ends
  | 0 => fun place => [place]
  | count + 1 => (body.andThen (body.upTo greedy count)).perhaps greedy

/-- Extends `seen`, newest first, by the place itself and all that further rounds of the body reach
from it. A round that does not advance is not followed. -/
def Ends.visit (body : Ends) (greedy : Bool) : Nat → Place → List Place → List Place
  | 0, _, seen => seen
  | fuel + 1, place, seen =>
    if place.mem seen then seen
    else
      let follow := fun seen (next : Place) =>
        if place.index < next.index then body.visit greedy fuel next seen else seen
      if greedy then place :: (body place).foldl follow seen
      else (body place).foldl follow (place :: seen)

/-- One or more rounds of the body. A first round that does not advance ends the repetition. -/
def Ends.rounds (body : Ends) (greedy : Bool) : Ends := fun place =>
  let follow := fun seen (next : Place) =>
    if place.index < next.index then body.visit greedy place.rest.length next seen
    else if next.mem seen then seen
    else next :: seen
  ((body place).foldl follow []).reverse

def Ends.repeated (body : Ends) (greedy : Bool) : Nat → Option Nat → Ends
  | least, some most => (body.times least).andThen (body.upTo greedy (most - least))
  | 0, none => (body.rounds greedy).perhaps greedy
  | least + 1, none => (body.times least).andThen (body.rounds greedy)

/-- Where matches from a place can end, in order of preference. -/
def ends : Pattern → Ends
  | empty => fun place => [place]
  | set members => fun place =>
    match place.rest with
    | [] => []
    | c :: rest => if members.contains c then [place.after c rest] else []
  | anchor condition => fun place => if condition.holds place then [place] else []
  | seq first second => first.ends.andThen second.ends
  | alt first second => first.ends.orElse second.ends
  | Pattern.repeated body least most greedy => body.ends.repeated greedy least most

structure Found where
  start : Nat
  stop : Nat
deriving DecidableEq, Repr

def findAt? (pattern : Pattern) (place : Place) : Option Found :=
  (pattern.ends place).head?.map fun stop => ⟨place.index, stop.index⟩

/-- The leftmost match that begins at or after the place before `rest`. -/
def findFrom? (pattern : Pattern) (index : Nat) (before : Option Char) :
    List Char → Option Found
  | [] => pattern.findAt? ⟨index, before, []⟩
  | c :: rest =>
    match pattern.findAt? ⟨index, before, c :: rest⟩ with
    | some found => some found
    | none => pattern.findFrom? (index + 1) (some c) rest

/-- The leftmost match in a text. A pattern that only matches at the start is tried only there. -/
def find? (pattern : Pattern) (text : List Char) : Option Found :=
  if pattern.anchored then pattern.findAt? (Place.start text) else pattern.findFrom? 0 none text

/-! ### Anchored patterns -/

theorem Ends.andThen_eq_nil {first : Ends} {place : Place} (h : first place = [])
    (second : Ends) : first.andThen second place = [] := by
  simp [Ends.andThen, h]

theorem Ends.orElse_eq_nil {first second : Ends} {place : Place} (hfirst : first place = [])
    (hsecond : second place = []) : first.orElse second place = [] := by
  simp [Ends.orElse, hfirst, hsecond]

theorem Ends.repeated_eq_nil {body : Ends} {place : Place} (h : body place = []) (greedy : Bool)
    {least : Nat} (hleast : 0 < least) (most : Option Nat) :
    body.repeated greedy least most place = [] := by
  obtain ⟨least, rfl⟩ : ∃ n, least = n + 1 := ⟨least - 1, by omega⟩
  have htimes (count : Nat) : body.times (count + 1) place = [] := Ends.andThen_eq_nil h _
  cases most with
  | some most => exact Ends.andThen_eq_nil (htimes least) _
  | none =>
    cases least with
    | zero => simp [Ends.repeated, Ends.times, Ends.andThen, Ends.rounds, h]
    | succ least => exact Ends.andThen_eq_nil (htimes least) _

/-- An anchored pattern matches at no place with a character before it. -/
theorem ends_eq_nil_of_anchored {pattern : Pattern} (hanchored : pattern.anchored = true)
    {place : Place} (hbefore : place.before.isSome = true) : pattern.ends place = [] := by
  induction pattern with
  | empty => simp [anchored] at hanchored
  | set => simp [anchored] at hanchored
  | anchor condition =>
    obtain rfl : condition = .textStart := by simpa [anchored] using hanchored
    obtain ⟨c, hc⟩ := Option.isSome_iff_exists.1 hbefore
    simp [ends, Anchor.holds, hc]
  | seq first second ihFirst _ => exact Ends.andThen_eq_nil (ihFirst hanchored) _
  | alt first second ihFirst ihSecond =>
    obtain ⟨hfirst, hsecond⟩ : first.anchored = true ∧ second.anchored = true := by
      simpa [anchored] using hanchored
    exact Ends.orElse_eq_nil (ihFirst hfirst) (ihSecond hsecond)
  | repeated body least most greedy ih =>
    obtain ⟨hleast, hbody⟩ : 0 < least ∧ body.anchored = true := by
      simpa [anchored] using hanchored
    exact Ends.repeated_eq_nil (ih hbody) greedy hleast most

theorem findFrom?_eq_none_of_anchored {pattern : Pattern} (hanchored : pattern.anchored = true)
    (index : Nat) (c : Char) (rest : List Char) :
    pattern.findFrom? index (some c) rest = none := by
  induction rest generalizing index c with
  | nil => simp [findFrom?, findAt?, ends_eq_nil_of_anchored hanchored]
  | cons next rest ih => simp [findFrom?, findAt?, ends_eq_nil_of_anchored hanchored, ih]

/-- Trying an anchored pattern only at the start loses no match. -/
theorem find?_eq_findFrom? (pattern : Pattern) (text : List Char) :
    pattern.find? text = pattern.findFrom? 0 none text := by
  unfold find?
  split
  · next hanchored =>
    cases text with
    | nil => rfl
    | cons c rest =>
      rw [findFrom?, findFrom?_eq_none_of_anchored hanchored]
      simp only [Place.start]
      cases pattern.findAt? ⟨0, none, c :: rest⟩ <;> rfl
  · rfl

end Pattern

end TokenGrammar
