import Tron.Position
import Tron.Text.Blank
import Tron.Text.Lines

/-! # Layout

A document is laid out by indenting each line by the blanks of the innermost block
open at it. A line that ends with an opening brace opens a block, a line that is
nothing but a closing brace closes one if any is open, and no other line opens or
closes anything, whatever braces it holds. A document that ends inside a block has no
layout.
-/

namespace Tron

structure Unclosed where
  openBlocks : Nat
  deriving Repr, DecidableEq

namespace Unclosed

def message (_ : Unclosed) : String := "Mismatched curly braces in the document"

end Unclosed

namespace Layout

def indentUnit : Text := [' ', ' ', ' ', ' ']

def opensBlock (line : Text) : Bool := line.getLast? == some '{'

def closesBlock (line : Text) : Bool := line == ['}']

/-- The blanks that a line gets within the open blocks. Each of these stands for the
    blanks of its own lines, and the innermost one comes first. -/
def innermost (blocks : List Text) : Text := blocks.headD []

/-- A line with its blanks, and the blocks that are open behind it. A closing brace
    stands where the line stood that opened its block, and a line without text gets no
    blanks. -/
def layLine (blocks : List Text) (line : Text) : Text × List Text :=
  if line.isEmpty then ([], blocks)
  else if opensBlock line then
    (innermost blocks ++ line, (innermost blocks ++ indentUnit) :: blocks)
  else if closesBlock line then (innermost blocks.tail ++ line, blocks.tail)
  else (innermost blocks ++ line, blocks)

/-- Lines with their blanks, and the blocks that are open behind the last. -/
def layLines (blocks : List Text) : List Text → List Text × List Text
  | [] => ([], blocks)
  | line :: lines =>
    let (laid, blocks) := layLine blocks line
    let (others, blocks) := layLines blocks lines
    (laid :: others, blocks)

def trimmedLines (s : Text) : List Text := s.lines.map Text.trim

/-- The document laid out, its lines ended by `\n`. -/
def format (s : Text) : Except Unclosed Text :=
  match layLines [] (trimmedLines s) with
  | (laid, []) => .ok (Text.joinLines laid)
  | (_, blocks) => .error ⟨blocks.length⟩

/-- The edits that lay out a document: one, which replaces all of it. -/
def edits (s : Text) : Except Unclosed (List Edit) :=
  (format s).map fun new => [.replacing s new]

end Layout

end Tron
