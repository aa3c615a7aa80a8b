import Tron.Text.Lines

/-! # Positions

Editors name a place in a document by its line and its column, both from zero,
with columns counted in 16-bit code units: a character beyond `U+FFFF` takes two of
them, every other character one. Here a place is turned into an offset and back.

An edit puts new text in place of a stretch of a document. A whole document is
replaced by one edit from its first place to its last.
-/

namespace Tron

/-- The number of 16-bit code units of a character. -/
def codeUnits (c : Char) : Nat := if c.toNat < 0x10000 then 1 else 2

namespace Text

def units : Text → Nat
  | [] => 0
  | c :: rest => codeUnits c + units rest

theorem units_append (s t : Text) : units (s ++ t) = units s + units t := by
  induction s with
  | nil => simp [units]
  | cons c s ih => simp [units, ih, Nat.add_assoc]

end Text

/-- A place in a document. -/
structure Position where
  line : Nat
  character : Nat
  deriving Repr, DecidableEq

namespace Position

/-- Places are ordered by line, then by column. -/
instance : LE Position :=
  ⟨fun p q => p.line < q.line ∨ (p.line = q.line ∧ p.character ≤ q.character)⟩

instance (p q : Position) : Decidable (p ≤ q) :=
  inferInstanceAs (Decidable (_ ∨ _))

/-- The place where a document starts. -/
def start : Position := ⟨0, 0⟩

/-- The place where a document ends: on its last line, after that line's text. -/
def endOf (s : Text) : Position where
  line := s.documentLines.length - 1
  character := Text.units (s.documentLines.getLastD [])

/-- The offset nearest to a number that lies in a text or just behind it. -/
def clamp (s : Text) (offset : Int) : Nat := min offset.toNat s.length

/-- The place of an offset: where the text up to there would end. -/
def ofOffset (s : Text) (offset : Int) : Position := endOf (s.take (clamp s offset))

/-- The offset at which a line starts, if the document has that many lines. -/
def lineStart? : Text → (line : Nat) → Option Nat
  | _, 0 => some 0
  | [], _ + 1 => none
  | '\r' :: '\n' :: rest, line + 1 => (lineStart? rest line).map (· + 2)
  | '\n' :: rest, line + 1 => (lineStart? rest line).map (· + 1)
  | '\r' :: rest, line + 1 => (lineStart? rest line).map (· + 1)
  | _ :: rest, line + 1 => (lineStart? rest (line + 1)).map (· + 1)

/-- The number of characters that make up a column, if the first line of the
    text reaches it and no character straddles it. -/
def charactersTo? : Text → (units : Nat) → Option Nat
  | _, 0 => some 0
  | [], _ + 1 => none
  | c :: rest, units + 1 =>
    if c = '\n' ∨ c = '\r' ∨ units + 1 < codeUnits c then none
    else (charactersTo? rest (units + 1 - codeUnits c)).map (· + 1)

/-- The offset of a place, if the document has that place. -/
def offset? (s : Text) (p : Position) : Option Nat := do
  let first ← lineStart? s p.line
  let along ← charactersTo? (s.drop first) p.character
  return first + along

end Position

/-- A stretch of a document, from one place up to another. -/
structure Span where
  start : Position
  stop : Position
  deriving Repr, DecidableEq

def Span.whole (s : Text) : Span := ⟨.start, .endOf s⟩

structure Edit where
  span : Span
  newText : Text
  deriving Repr, DecidableEq

namespace Edit

/-- The edit that puts one document in place of another. -/
def replacing (s new : Text) : Edit := ⟨.whole s, new⟩

/-- The document after an edit, if it has the places that the edit names. -/
def applied? (e : Edit) (s : Text) : Option Text := do
  let start ← e.span.start.offset? s
  let stop ← e.span.stop.offset? s
  if start ≤ stop then some (s.take start ++ e.newText ++ s.drop stop) else none

end Edit

end Tron
