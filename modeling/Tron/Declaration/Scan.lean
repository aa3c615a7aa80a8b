import Tron.Declaration.Basic
import Tron.Declaration.FnForm
import Tron.Declaration.LetForm
import Tron.Declaration.ParameterForm

/-! # Declarations of a text

A text need not be a valid program: whatever reads as a declaration counts, at
any place, and everything else is passed over. Variables and functions are
looked for separately, so a form may lie inside a form of the other kind.
-/

namespace Tron

namespace ParameterForm

def parameter (f : ParameterForm) : Parameter := ⟨f.name, f.declaredType⟩

def occurrences (s : Text) : List (Occurrence ParameterForm) :=
  Reader.occurrences ParameterForm.read? s

end ParameterForm

/-- The parameters of a parameter list, from left to right. -/
def Parameter.listOf (s : Text) : List Parameter :=
  (ParameterForm.occurrences s).map fun o => o.form.parameter

namespace LetForm

def declaration (f : LetForm) : VariableDeclaration where
  rawText := f.text
  declaredType := f.declaredType
  initializer := f.initializer

def occurrences (s : Text) : List (Occurrence LetForm) :=
  Reader.occurrences LetForm.read? s

end LetForm

namespace FnForm

def declaration (f : FnForm) : FunctionDeclaration where
  rawText := f.text
  parameters := Parameter.listOf f.parameters
  returnType := f.returnType

def occurrences (s : Text) : List (Occurrence FnForm) :=
  Reader.occurrences FnForm.read? s

end FnForm

/-- Everything a text declares. -/
def Declarations.ofText (s : Text) : Declarations where
  variableTable := Table.ofList
    ((LetForm.occurrences s).map fun o => (o.form.name, o.form.declaration))
  functionTable := Table.ofList
    ((FnForm.occurrences s).map fun o => (o.form.name, o.form.declaration))

end Tron
