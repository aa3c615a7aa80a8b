import Tron.Declaration.Identifier
import Tron.Text.Blank
import Tron.Text.Occurrence

/-! # Variable declarations as they are written

`let name : type = initializer ;` with any blanks between the pieces, and at
least one after `let`. The initializer ends at the first `;`. Nothing is asked
of what comes before, so the form may start in the middle of a word.
-/

namespace Tron

/-- A variable declaration with all its characters, piece by piece. -/
structure LetForm where
  afterLet : Text
  name : Text
  beforeColon : Text
  afterColon : Text
  declaredType : Text
  beforeEquals : Text
  afterEquals : Text
  initializer : Text
  deriving Repr, DecidableEq

namespace LetForm

def word : Text := ['l', 'e', 't']

def text (f : LetForm) : Text :=
  word ++ (f.afterLet ++ (f.name ++ (f.beforeColon ++ ':' :: (f.afterColon ++
    (f.declaredType ++ (f.beforeEquals ++ '=' :: (f.afterEquals ++
      (f.initializer ++ [';']))))))))

/-- What makes the pieces a declaration. The blanks before the initializer are
    not part of it, so that a declaration has one division into pieces. -/
structure WellFormed (f : LetForm) : Prop where
  afterLet_ne_nil : f.afterLet ≠ []
  afterLet_blank : Blank f.afterLet
  name_identifier : IsIdentifier f.name
  beforeColon_blank : Blank f.beforeColon
  afterColon_blank : Blank f.afterColon
  declaredType_identifier : IsIdentifier f.declaredType
  beforeEquals_blank : Blank f.beforeEquals
  afterEquals_blank : Blank f.afterEquals
  initializer_open : ∀ c ∈ f.initializer.head?, isBlank c = false
  initializer_closed : ';' ∉ f.initializer

def read? : Reader LetForm := fun s => do
  let s ← Text.after? word s
  let (afterLet, s) := Text.blanks s
  if afterLet = [] then none
  let (name, s) ← Identifier.read? s
  let (beforeColon, s) := Text.blanks s
  let s ← Text.after? [':'] s
  let (afterColon, s) := Text.blanks s
  let (declaredType, s) ← Identifier.read? s
  let (beforeEquals, s) := Text.blanks s
  let s ← Text.after? ['='] s
  let (afterEquals, s) := Text.blanks s
  let (initializer, rest) ← Text.upTo? ';' s
  return (⟨afterLet, name, beforeColon, afterColon, declaredType, beforeEquals, afterEquals,
    initializer⟩, rest)

end LetForm

end Tron
