import Tron.Documents
import Tron.Proofs.TableInsertion

/-! # The order of documents and of their names

An update moves its document behind all others, so the entries of the table are
in the order of the last updates. What the documents declare together is one
table, into which the declarations of each are inserted in that order.
-/

namespace Tron

/-- Declarations inserted one after another into one table of each kind. -/
def Declarations.joined (ds : List Declarations) : Declarations where
  variableTable := .ofList (ds.flatMap fun d => d.variableTable.entries)
  functionTable := .ofList (ds.flatMap fun d => d.functionTable.entries)

namespace Declarations

theorem foldl_merge (ds : List Declarations) (all : Declarations) :
    ds.foldl merge all =
      { variableTable := all.variableTable.insertMany (ds.flatMap fun d => d.variableTable.entries)
        functionTable :=
          all.functionTable.insertMany (ds.flatMap fun d => d.functionTable.entries) } := by
  induction ds generalizing all with
  | nil => rfl
  | cons d ds ih =>
      simp only [List.foldl_cons, ih, List.flatMap_cons, Table.insertMany_append]
      rfl

end Declarations

namespace Documents

/-- An update takes the document out of its place and puts it last. -/
theorem entries_update (d : Documents) (uri : String) (s : Text) :
    (d.update uri s).tracked.entries =
      d.tracked.entries.filter (fun e => e.1 ≠ uri) ++ [(uri, ⟨uri, .ofText s⟩)] := by
  apply Table.place_of_not_mem
  simp [Table.erase]

theorem entries_forget (d : Documents) (uri : String) :
    (d.forget uri).tracked.entries = d.tracked.entries.filter fun e => e.1 ≠ uri :=
  rfl

/-- What the documents declare together, the one updated last inserted last. -/
theorem shared_eq_joined (d : Documents) :
    d.shared = .joined (d.tracked.values.map (·.declarations)) := by
  have folded := Declarations.foldl_merge (d.tracked.values.map (·.declarations)) ∅
  rw [List.foldl_map] at folded
  exact folded

end Documents

end Tron
