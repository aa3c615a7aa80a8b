import Tron.Text.Lines

/-! # Paths

A path is a row of names from some starting point. Empty names and `.` say
nothing and are left out; `..` stays, since what it leads to depends on the
directories that are there. Exactly two slashes at the front are told apart from
one, and more than two count as one.
-/

namespace Tron

inductive Anchor where
  | here
  | top
  /-- The top, written with two slashes. -/
  | doubleTop
  deriving Repr, DecidableEq

structure Path where
  anchor : Anchor := .here
  names : List String := []
  deriving Repr, DecidableEq

namespace Path

/-- Where a path starts that has so many slashes at its front. -/
def anchorOf : (slashes : Nat) → Anchor
  | 0 => .here
  | 2 => .doubleTop
  | _ => .top

/-- What stands before, between and behind the slashes of a text. -/
def stretches : Text → List Text
  | [] => [[]]
  | '/' :: rest => [] :: stretches rest
  | c :: rest => Text.consLine c (stretches rest)

/-- Names divided by slashes, with those that say nothing left out. -/
def namesOf (s : String) : List String :=
  ((stretches s.toList).map String.ofList).filter fun name => name ≠ "" && name ≠ "."

def ofString (s : String) : Path where
  anchor := anchorOf (s.toList.takeWhile (· = '/')).length
  names := namesOf s

def anchorText : Anchor → String
  | .here => ""
  | .top => "/"
  | .doubleTop => "//"

def text (p : Path) : String :=
  if p.anchor = .here ∧ p.names = [] then "."
  else anchorText p.anchor ++ "/".intercalate p.names

/-- The path that goes on with further names. -/
def below (p : Path) (names : List String) : Path := { p with names := p.names ++ names }

def parent (p : Path) : Path := { p with names := p.names.dropLast }

end Path

end Tron
