import Tron.Documents

/-! # Operations on tracked documents

What can be asked of the followed documents, and the answer to it. The documents
change by an update, by forgetting one of them and by giving up all.
-/

namespace Tron

namespace Documents

inductive Operation where
  | update (uri : String) (text : Text)
  | get (uri : String)
  | has (uri : String)
  /-- The declarations visible from a document, if one is named. -/
  | query (uri : Option String) (isShared : Bool)
  | forget (uri : String)
  | dispose
  deriving Repr, DecidableEq

inductive Answer where
  | declarations (found : Declarations)
  | document (found : Option TrackedDocument)
  | known (isKnown : Bool)
  | done

structure Outcome where
  documents : Documents
  answer : Answer

/-- Carry out an operation. An update answers with what the text declares. -/
def perform (d : Documents) : Operation → Outcome
  | .update uri text => ⟨d.update uri text, .declarations (.ofText text)⟩
  | .get uri => ⟨d, .document (d.get? uri)⟩
  | .has uri => ⟨d, .known (d.contains uri)⟩
  | .query uri isShared => ⟨d, .declarations (d.visible uri isShared)⟩
  | .forget uri => ⟨d.forget uri, .done⟩
  | .dispose => ⟨∅, .done⟩

/-- The documents after operations carried out one after another. -/
def after (d : Documents) (ops : List Operation) : Documents :=
  ops.foldl (fun d op => (d.perform op).documents) d

end Documents

end Tron
