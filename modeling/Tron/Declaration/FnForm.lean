import Tron.Declaration.Identifier
import Tron.Text.Blank
import Tron.Text.Occurrence

/-! # Function declarations as they are written

`fn name ( parameters ) : type { body }` with any blanks between the pieces, and
at least one after `fn`. The parameters end at the first closing parenthesis and
the body at the first closing brace, so a body with blocks of its own is cut
short.
-/

namespace Tron

/-- A function declaration with all its characters, piece by piece. -/
structure FnForm where
  afterFn : Text
  name : Text
  beforeParameters : Text
  parameters : Text
  beforeColon : Text
  afterColon : Text
  returnType : Text
  beforeBody : Text
  body : Text
  deriving Repr, DecidableEq

namespace FnForm

def word : Text := ['f', 'n']

def text (f : FnForm) : Text :=
  word ++ (f.afterFn ++ (f.name ++ (f.beforeParameters ++ '(' :: (f.parameters ++
    ')' :: (f.beforeColon ++ ':' :: (f.afterColon ++ (f.returnType ++ (f.beforeBody ++
      '{' :: (f.body ++ ['}'])))))))))

/-- What makes the pieces a declaration. -/
structure WellFormed (f : FnForm) : Prop where
  afterFn_ne_nil : f.afterFn ≠ []
  afterFn_blank : Blank f.afterFn
  name_identifier : IsIdentifier f.name
  beforeParameters_blank : Blank f.beforeParameters
  parameters_closed : ')' ∉ f.parameters
  beforeColon_blank : Blank f.beforeColon
  afterColon_blank : Blank f.afterColon
  returnType_identifier : IsIdentifier f.returnType
  beforeBody_blank : Blank f.beforeBody
  body_closed : '}' ∉ f.body

def read? : Reader FnForm := fun s => do
  let s ← Text.after? word s
  let (afterFn, s) := Text.blanks s
  if afterFn = [] then none
  let (name, s) ← Identifier.read? s
  let (beforeParameters, s) := Text.blanks s
  let s ← Text.after? ['('] s
  let (parameters, s) ← Text.upTo? ')' s
  let (beforeColon, s) := Text.blanks s
  let s ← Text.after? [':'] s
  let (afterColon, s) := Text.blanks s
  let (returnType, s) ← Identifier.read? s
  let (beforeBody, s) := Text.blanks s
  let s ← Text.after? ['{'] s
  let (body, rest) ← Text.upTo? '}' s
  return (⟨afterFn, name, beforeParameters, parameters, beforeColon, afterColon, returnType,
    beforeBody, body⟩, rest)

end FnForm

end Tron
