import Tron.Text.Basic

/-! # Identifiers

Names of the language are ASCII: a letter or an underscore, then letters, digits
and underscores. A reader takes as much of a name as there is.
-/

namespace Tron

def isIdentifierStart (c : Char) : Bool := c.isAlpha || c == '_'

def isIdentifierPart (c : Char) : Bool := c.isAlphanum || c == '_'

def IsIdentifier : Text → Prop
  | [] => False
  | c :: rest => isIdentifierStart c = true ∧ ∀ d ∈ rest, isIdentifierPart d = true

instance : DecidablePred IsIdentifier
  | [] => inferInstanceAs (Decidable False)
  | c :: rest =>
    @instDecidableAnd (isIdentifierStart c = true) _ _
      (List.decidableBAll (isIdentifierPart · = true) rest)

namespace Identifier

/-- The same class as a pattern, in the form in which clients are told it. -/
def pattern : String := "[a-zA-Z_][a-zA-Z0-9_]*"

/-- Takes the longest identifier off the front of a text. -/
def read? : Text → Option (Text × Text)
  | [] => none
  | c :: rest =>
    if isIdentifierStart c then
      some (c :: rest.takeWhile isIdentifierPart, rest.dropWhile isIdentifierPart)
    else none

end Identifier

end Tron
