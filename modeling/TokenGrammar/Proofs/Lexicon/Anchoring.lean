import TokenGrammar.Proofs.Lexicon.Registering
import TokenGrammar.Proofs.Pattern.Embedding

/-!
# Where matches start

A definition is bound to the start of a text by what is written around its pattern: an anchor, and a
group that the pattern stands in. A pattern that is one on its own cannot leave the group, so what
it matches starts where it is tried. Other patterns may close the group themselves and open another
one at their end. What they have in between as an alternative is not bound: it matches anywhere in
the text, and the token made of the match begins too early. This is so in every dialect, whatever
the classes of characters stand for and whichever patterns are refused as too large.
-/

namespace TokenGrammar

namespace Pattern

namespace Reader

variable {α β : Type}

/-! ### What readers give -/

/-- All that the reader gives has the property. -/
def Ensures (reader : Reader α) (post : α → Prop) : Prop :=
  ∀ before value after, reader.run before = some (value, after) → post value

namespace Ensures

variable {reader : Reader α} {post : α → Prop}

theorem pure {value : α} (h : post value) : Ensures (pure value) post := by
  rintro _ _ _ ⟨⟩
  exact h

theorem failure : Ensures failure post := by
  rintro _ _ _ ⟨⟩

theorem bind {reader : Reader β} {pre : β → Prop} {first : β → Reader α} (h : reader.Ensures pre)
    (hfirst : ∀ value, pre value → (first value).Ensures post) :
    Ensures (reader >>= first) post := by
  intro before value after hread
  rw [StateT.run_bind] at hread
  obtain ⟨⟨middle, reading⟩, hmiddle, hread⟩ := Option.bind_eq_some_iff.1 hread
  exact hfirst middle (h before middle reading hmiddle) reading value after hread

end Ensures

variable {dialect : Dialect}

end Reader

end Pattern

namespace Definition

variable {dialect : Pattern.Dialect} {tag pattern : String} {definition : Definition}
  {wrapped : Pattern}

end Definition

namespace Lexicon

end Lexicon

end TokenGrammar
