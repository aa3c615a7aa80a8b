import Tron.Text.Basic

/-! # Lines

Two conventions of what ends a line. A source file's lines end with `\n` or
`\r\n`, and a lone `\r` is an ordinary character. For positions in a document a
lone `\r` ends a line as well.
-/

namespace Tron
namespace Text

def consLine (c : Char) : List Text → List Text
  | [] => [[c]]
  | line :: lines => (c :: line) :: lines

/-- The lines of a source file, ended by `\n` or `\r\n`. There is always a last
    line, empty if the text ends with a line break. -/
def lines : Text → List Text
  | [] => [[]]
  | '\r' :: '\n' :: rest => [] :: lines rest
  | '\n' :: rest => [] :: lines rest
  | c :: rest => consLine c (lines rest)

/-- The lines of a document, ended by `\n`, `\r\n` or `\r`. -/
def documentLines : Text → List Text
  | [] => [[]]
  | '\r' :: '\n' :: rest => [] :: documentLines rest
  | '\n' :: rest => [] :: documentLines rest
  | '\r' :: rest => [] :: documentLines rest
  | c :: rest => consLine c (documentLines rest)

def joinLines : List Text → Text
  | [] => []
  | [line] => line
  | line :: next :: lines => line ++ '\n' :: joinLines (next :: lines)

def unifyBreaks : Text → Text
  | [] => []
  | '\r' :: '\n' :: rest => '\n' :: unifyBreaks rest
  | '\r' :: rest => '\n' :: unifyBreaks rest
  | c :: rest => c :: unifyBreaks rest

theorem consLine_ne_nil (c : Char) (ls : List Text) : consLine c ls ≠ [] := by
  cases ls <;> simp [consLine]

theorem lines_ne_nil (s : Text) : lines s ≠ [] := by
  fun_cases lines s <;> simp [consLine_ne_nil]

theorem documentLines_ne_nil (s : Text) : documentLines s ≠ [] := by
  fun_cases documentLines s <;> simp [consLine_ne_nil]

end Text
end Tron
