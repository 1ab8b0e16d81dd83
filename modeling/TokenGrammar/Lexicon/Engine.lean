import TokenGrammar.Pattern.Reader
import TokenGrammar.Pattern.Search
import TokenGrammar.Text.Bytes

/-!
# Engines

What makes matchers of the texts of patterns. Lexicons work with any engine: of a match they only
rely on its end being a byte offset between two characters of the text.
-/

namespace TokenGrammar

/-- The bytes of a text from `start` up to and without `stop`. -/
structure ByteRange where
  start : Nat
  stop : Nat
deriving DecidableEq, Repr

structure Matcher where
  find? : List Char → Option ByteRange
  isBoundary_stop : ∀ {text : List Char} {found : ByteRange}, find? text = some found →
    Text.IsBoundary text found.stop

/-- Gives no matcher for a text that it refuses as a pattern. -/
abbrev Engine : Type := List Char → Option Matcher

namespace Pattern

/-- Where the match lies, in bytes. -/
def Found.toBytes (found : Found) (text : List Char) : ByteRange :=
  ⟨Text.byteSize (text.take found.start), Text.byteSize (text.take found.stop)⟩

def matcher (pattern : Pattern) : Matcher where
  find? text := (pattern.find? text).map (·.toBytes text)
  isBoundary_stop h := by
    obtain ⟨found, -, rfl⟩ := Option.map_eq_some_iff.1 h
    exact ⟨_, _, List.take_append_drop found.stop _, rfl⟩

theorem map_stop_find?_matcher (pattern : Pattern) (text : List Char) :
    (pattern.matcher.find? text).map ByteRange.stop =
      ((pattern.find? text).map Found.stop).map fun stop => Text.byteSize (text.take stop) := by
  rw [Option.map_map]
  exact Option.map_map _ _ _

/-- The engine of a dialect. -/
def engine (dialect : Dialect) : Engine := fun text => (read? dialect text).map matcher

end Pattern

def Engine.standard : Engine := Pattern.engine .standard

end TokenGrammar
