import Tron.Declaration.Identifier
import Tron.Text.Blank
import Tron.Text.Occurrence

/-! # Parameters as they are written

`name : type` with any blanks around the pieces. In a list of parameters
whatever is not such a pair is passed over, commas included.
-/

namespace Tron

/-- A parameter with all its characters, piece by piece. -/
structure ParameterForm where
  before : Text
  name : Text
  beforeColon : Text
  afterColon : Text
  declaredType : Text
  after : Text
  deriving Repr, DecidableEq

namespace ParameterForm

def text (f : ParameterForm) : Text :=
  f.before ++ (f.name ++ (f.beforeColon ++ ':' :: (f.afterColon ++
    (f.declaredType ++ f.after))))

structure WellFormed (f : ParameterForm) : Prop where
  before_blank : Blank f.before
  name_identifier : IsIdentifier f.name
  beforeColon_blank : Blank f.beforeColon
  afterColon_blank : Blank f.afterColon
  declaredType_identifier : IsIdentifier f.declaredType
  after_blank : Blank f.after

def read? : Reader ParameterForm := fun s => do
  let (before, s) := Text.blanks s
  let (name, s) ← Identifier.read? s
  let (beforeColon, s) := Text.blanks s
  let s ← Text.after? [':'] s
  let (afterColon, s) := Text.blanks s
  let (declaredType, s) ← Identifier.read? s
  let (after, rest) := Text.blanks s
  return (⟨before, name, beforeColon, afterColon, declaredType, after⟩, rest)

end ParameterForm

end Tron
