import TokenGrammar.Lexicon.Basic

/-!
# Scanning

Cutting a source into tokens from left to right: at every offset the first definition that matches
the rest of the source gives the token.
-/

namespace TokenGrammar

inductive ScanError where
  | noMatch (offset : Nat) (remaining : String)
  | zeroWidthMatch (tag : String) (offset : Nat)
  | sourceTooLarge (size : Nat)
deriving DecidableEq, Repr

namespace ScanError

/-- How many characters of the remaining source a message shows. -/
def previewLength : Nat := 16

def preview (remaining : String) : String :=
  Text.quoted (String.ofList (remaining.toList.take previewLength))

def message : ScanError → String
  | noMatch offset remaining =>
    s!"no token definition matches at offset {offset}, near " ++ preview remaining
  | zeroWidthMatch tag offset => s!"token definition `{tag}` matched empty text at offset {offset}"
  | sourceTooLarge size => s!"source of {size} bytes exceeds the 4 GiB limit"

def offset : ScanError → Nat
  | noMatch offset _ => offset
  | zeroWidthMatch _ offset => offset
  | sourceTooLarge _ => 0

end ScanError

/-- The first definition that matches: its id, its tag and how many bytes it takes. -/
structure Probe where
  id : Serial
  tag : String
  length : Nat
deriving DecidableEq, Repr

namespace Lexicon

def probeFrom (text : List Char) : Nat → List Definition → Option Probe
  | _, [] => none
  | index, definition :: rest =>
    match definition.match? text with
    | some length => some ⟨.ofIndex index, definition.tag, length⟩
    | none => probeFrom text (index + 1) rest

def probe (lexicon : Lexicon) (text : List Char) : Option Probe :=
  probeFrom text 0 lexicon.definitions

theorem isBoundary_of_probeFrom {text : List Char} {index : Nat} {definitions : List Definition}
    {probe : Probe} (h : probeFrom text index definitions = some probe) :
    Text.IsBoundary text probe.length := by
  induction definitions generalizing index with
  | nil => cases h
  | cons definition rest ih =>
    rw [probeFrom] at h
    split at h
    · next length hmatch =>
      cases h
      obtain ⟨found, hfound, rfl⟩ := Option.map_eq_some_iff.1 hmatch
      exact definition.matcher.isBoundary_stop hfound
    · exact ih h

/-- What a definition takes ends between two characters, so that the text can be cut there. -/
theorem isBoundary_of_probe {lexicon : Lexicon} {text : List Char} {probe : Probe}
    (h : lexicon.probe text = some probe) : Text.IsBoundary text probe.length :=
  isBoundary_of_probeFrom h

/-- The tokens found before scanning stopped, and why it stopped short of the end if it did. -/
structure Scan where
  tokens : List Token
  error? : Option ScanError
deriving DecidableEq, Repr

def Scan.cons (token : Token) (scan : Scan) : Scan := { scan with tokens := token :: scan.tokens }

/-- Scans the rest of a source from the given byte offset on. Every token takes a character, so the
number of characters bounds the number of rounds. -/
def scanFrom (lexicon : Lexicon) : Nat → Nat → List Char → Scan
  | 0, _, _ => ⟨[], none⟩
  | fuel + 1, offset, text =>
    if text.isEmpty then ⟨[], none⟩
    else
      match hprobe : lexicon.probe text with
      | none => ⟨[], some (.noMatch offset (String.ofList text))⟩
      | some probe =>
        if probe.length = 0 then ⟨[], some (.zeroWidthMatch probe.tag offset)⟩
        else
          let (taken, rest) := (Text.splitAtByte? probe.length text).get
            (isBoundary_of_probe hprobe).isSome_splitAtByte?
          let stop := offset + probe.length
          (lexicon.scanFrom fuel stop rest).cons
            ⟨probe.id, probe.tag, String.ofList taken, Span.ofOffsets offset stop⟩

/-- Spans hold 32-bit offsets, so larger sources are refused. -/
def sourceLimit : Nat := Word.limit

def scan (lexicon : Lexicon) (source : String) : Except ScanError TokenSequence :=
  if source.utf8ByteSize > sourceLimit then .error (.sourceTooLarge source.utf8ByteSize)
  else
    let text := source.toList
    let scan := lexicon.scanFrom text.length 0 text
    match scan.error? with
    | some error => .error error
    | none => .ok ⟨scan.tokens.toArray, source.utf8ByteSize⟩

end Lexicon

end TokenGrammar
