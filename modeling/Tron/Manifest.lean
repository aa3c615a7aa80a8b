import Tron.Text.Blank
import Tron.Text.Lines

/-! # Manifests

A package manifest tells the package's version on a line of its own,
`version = "..."`. The quoted part may run over several lines, and the first line
that reads as a whole decides: a line that fails hides none of those after it,
not even one that starts within its quotes.
-/

namespace Tron

/-- A manifest whose bytes are no UTF-8 text. -/
inductive ManifestFault where
  | undecodable
  deriving Repr, DecidableEq

namespace Manifest

def defaultVersion : Text := "0.0.0".toList

/-- What a line that tells the version starts with. -/
def versionMark : Text := "version = \"".toList

/-- Whether blanks lead up to the end of a line. They are passed over as far as they go,
    line breaks among them, and given back until a line ends behind those passed over. -/
def lineIsOver : Text → Bool
  | [] => true
  | c :: rest => isBlank c && lineIsOver rest || c == '\n'

def versionAt? (s : Text) : Option Text := do
  let s ← Text.after? versionMark s
  let (version, rest) ← Text.upTo? '"' s
  if version ≠ [] && lineIsOver rest then some version else none

/-- The text from each `\n` on, without that `\n`. -/
def laterLines : Text → List Text
  | [] => []
  | c :: rest => if c = '\n' then rest :: laterLines rest else laterLines rest

/-- The text from the start of each of its lines on. -/
def lineStarts (s : Text) : List Text := s :: laterLines s

/-- The first version that a text tells, all its line breaks being `\n`. -/
def version? (s : Text) : Option Text := (lineStarts s).findSome? versionAt?

/-- The version of a package with this manifest, whatever its line breaks. -/
def version (s : Text) : Text := (version? s.unifyBreaks).getD defaultVersion

/-- The version of a package whose manifest has these bytes, or no manifest. -/
def versionOfFile : Option ByteArray → Except ManifestFault Text
  | none => .ok defaultVersion
  | some bytes =>
    match String.fromUTF8? bytes with
    | none => .error .undecodable
    | some s => .ok (version s.toList)

end Manifest

end Tron
