import Tron.Table
import Tron.Text.Basic

/-! # Workspace

The texts that the client last gave for its documents. A document never heard of
is empty, and some documents cannot be read at all.
-/

namespace Tron

/-- A document cannot be read, for a reason that is told in these words. -/
structure Unreadable where
  message : String
  deriving Repr, DecidableEq

/-- What reading each document gives, by URI. -/
structure Workspace where
  sources : Table String (Except Unreadable Text) := ∅

namespace Workspace

instance : EmptyCollection Workspace := ⟨{}⟩

instance : Inhabited Workspace := ⟨∅⟩

/-- Give a document a text, or make it unreadable. -/
def set (w : Workspace) (uri : String) (source : Except Unreadable Text) : Workspace where
  sources := w.sources.insert uri source

def read (w : Workspace) (uri : String) : Except Unreadable Text :=
  (w.sources.get? uri).getD (.ok [])

end Workspace

end Tron
