import Tron.Table
import Tron.Text.Basic

/-! # Declarations

What a document declares, by name. Within a table a name keeps the place at
which it first came up and means what its last declaration says.
-/

namespace Tron

structure Parameter where
  name : Text
  declaredType : Text
  deriving Repr, DecidableEq

/-- What is known of a variable: its declaration as written, and its pieces. -/
structure VariableDeclaration where
  rawText : Text
  declaredType : Text
  initializer : Text
  deriving Repr, DecidableEq

/-- What is known of a function: its declaration as written, and its pieces. -/
structure FunctionDeclaration where
  rawText : Text
  parameters : List Parameter
  returnType : Text
  deriving Repr, DecidableEq

/-- The variables and the functions of one or more documents. A variable and a
    function may share a name. -/
structure Declarations where
  variableTable : Table Text VariableDeclaration := ∅
  functionTable : Table Text FunctionDeclaration := ∅

namespace Declarations

instance : EmptyCollection Declarations := ⟨{}⟩

instance : Inhabited Declarations := ⟨∅⟩

def isEmpty (d : Declarations) : Bool := d.variableTable.isEmpty && d.functionTable.isEmpty

/-- Declarations joined by further ones, which win where both have a name. -/
def merge (d e : Declarations) : Declarations where
  variableTable := d.variableTable.merge e.variableTable
  functionTable := d.functionTable.merge e.functionTable

end Declarations

end Tron
