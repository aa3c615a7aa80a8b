import Tron.Declaration.Scan

/-! # Tracked documents

The declarations of every document that is followed, the one updated last at the
end. An update looks at the new text alone, so nothing of an earlier text of the
document survives it.
-/

namespace Tron

structure TrackedDocument where
  uri : String
  declarations : Declarations

structure Documents where
  tracked : Table String TrackedDocument := ∅

namespace Documents

instance : EmptyCollection Documents := ⟨{}⟩

instance : Inhabited Documents := ⟨∅⟩

/-- The URIs of the followed documents, the least recently updated first. -/
def uris (d : Documents) : List String := d.tracked.keys

def size (d : Documents) : Nat := d.tracked.size

def get? (d : Documents) (uri : String) : Option TrackedDocument := d.tracked.get? uri

def contains (d : Documents) (uri : String) : Bool := d.tracked.contains uri

/-- Follow a document with a new text. It becomes the last one. -/
def update (d : Documents) (uri : String) (s : Text) : Documents where
  tracked := (d.tracked.erase uri).insert uri ⟨uri, .ofText s⟩

def forget (d : Documents) (uri : String) : Documents where
  tracked := d.tracked.erase uri

/-- The declarations of all documents. Where several have a name, the document
    updated last wins. -/
def shared (d : Documents) : Declarations :=
  d.tracked.values.foldl (fun all t => all.merge t.declarations) ∅

/-- The declarations of one document, none if it is not followed. No document is
    asked for by the empty URI. -/
def own (d : Documents) : Option String → Declarations
  | none => ∅
  | some uri => if uri.isEmpty then ∅ else ((d.get? uri).map (·.declarations)).getD ∅

/-- The declarations visible from a document: those of all documents if they are
    shared, else its own. -/
def visible (d : Documents) (uri : Option String) (isShared : Bool) : Declarations :=
  if isShared then d.shared else d.own uri

end Documents

end Tron
