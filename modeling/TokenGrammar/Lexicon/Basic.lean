import TokenGrammar.Lexicon.Engine
import TokenGrammar.Token.Kind

/-!
# Lexicons

An ordered list of token definitions. A pattern is read inside a group that is bound to the start of
the text; one that matches the empty text is refused, because its tokens could be empty.
-/

namespace TokenGrammar

structure Definition where
  tag : String
  pattern : String
  matcher : Matcher

inductive DefinitionError where
  | invalidPattern (tag : String)
  | zeroWidth (tag pattern : String)
deriving DecidableEq, Repr

namespace DefinitionError

def message : DefinitionError → String
  | invalidPattern tag => s!"invalid pattern for token `{tag}`"
  | zeroWidth tag pattern => s!"pattern `{pattern}` for token `{tag}` matches empty text"

end DefinitionError

namespace Definition

/-- The text that is read as the pattern of a definition. -/
def bound (pattern : String) : List Char := "\\A(?:".toList ++ pattern.toList ++ [')']

def make (engine : Engine) (tag pattern : String) : Except DefinitionError Definition :=
  match engine (bound pattern) with
  | none => .error (.invalidPattern tag)
  | some matcher =>
    if (matcher.find? []).isSome then .error (.zeroWidth tag pattern)
    else .ok { tag, pattern, matcher }

/-- How many bytes a token of this definition takes from the start of a text: up to the end of the
match, wherever that begins. -/
def match? (definition : Definition) (text : List Char) : Option Nat :=
  (definition.matcher.find? text).map (·.stop)

end Definition

structure Lexicon where
  definitions : List Definition

namespace Lexicon

def empty : Lexicon := ⟨[]⟩

def size (lexicon : Lexicon) : Nat := lexicon.definitions.length

def isEmpty (lexicon : Lexicon) : Bool := lexicon.definitions.isEmpty

def tag? (lexicon : Lexicon) (id : Serial) : Option String :=
  lexicon.definitions[id.index]?.map (·.tag)

def pattern? (lexicon : Lexicon) (id : Serial) : Option String :=
  lexicon.definitions[id.index]?.map (·.pattern)

/-- Adds a definition at the end and gives out its kind. -/
def define {α : Type} (lexicon : Lexicon) (tag pattern : String) (read : String → Option α)
    (engine : Engine := .standard) : Except DefinitionError (Kind α × Lexicon) := do
  let definition ← Definition.make engine tag pattern
  return (⟨.ofIndex lexicon.size, tag, read⟩, ⟨lexicon.definitions ++ [definition]⟩)

def defineText (lexicon : Lexicon) (tag pattern : String) (engine : Engine := .standard) :
    Except DefinitionError (Kind String × Lexicon) :=
  lexicon.define tag pattern some engine

end Lexicon

end TokenGrammar
