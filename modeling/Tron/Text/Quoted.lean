import Tron.Text.Basic
import Tron.Text.Printable

/-! # Quoted values

A value named in a message stands between quotation marks on one line, with
every character that would not show written as an escape.
-/

namespace Tron
namespace Text

/-- The mark a value is quoted with: `'`, unless the value holds `'` and no `"`. -/
def quotationMark (s : Text) : Char :=
  if s.contains '\'' && !s.contains '"' then '"' else '\''

/-- The last `width` hexadecimal digits of a number, the highest first. -/
def hexadecimal : (width : Nat) → Nat → Text
  | 0, _ => []
  | width + 1, n => hexadecimal width (n / 16) ++ [Nat.digitChar (n % 16)]

/-- A character that does not show, by its code point in two, four or eight
    hexadecimal digits, whichever is the least that holds it. -/
def codePointEscape (c : Char) : Text :=
  let n := c.toNat
  if n < 0x100 then '\\' :: 'x' :: hexadecimal 2 n
  else if n < 0x10000 then '\\' :: 'u' :: hexadecimal 4 n
  else '\\' :: 'U' :: hexadecimal 8 n

def quoteChar (mark c : Char) : Text :=
  if c = mark ∨ c = '\\' then ['\\', c]
  else if c = '\t' then ['\\', 't']
  else if c = '\n' then ['\\', 'n']
  else if c = '\r' then ['\\', 'r']
  else if isPrintable c then [c]
  else codePointEscape c

def quoted (s : Text) : Text :=
  let mark := s.quotationMark
  mark :: s.flatMap (quoteChar mark) ++ [mark]

end Text

def quote (s : String) : String := String.ofList (Text.quoted s.toList)

end Tron
