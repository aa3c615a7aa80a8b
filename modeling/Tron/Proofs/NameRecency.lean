import Mathlib.Data.List.Basic
import Tron.Proofs.DocumentHistory

/-! # Names that several documents declare

The view that all documents share has a name if some document declares it. What the
name means comes from the document updated last among those that declare it, but
its place comes from the document updated first: the names stand as they first come
up when the documents are walked from the least recently updated on.
-/

namespace Tron

namespace Table

variable {κ α δ : Type} [DecidableEq κ]

/-- The entries of several tables inserted one after another into one. -/
def joined (ts : List (Table κ α)) : Table κ α := .ofList (ts.flatMap entries)

theorem keys_joined [BEq κ] [LawfulBEq κ] (ts : List (Table κ α)) :
    (joined ts).keys = (ts.flatMap keys).eraseDups := by
  rw [joined, keys_ofList, List.map_flatMap]
  rfl

/-- The last of the tables that has the key decides. -/
theorem get?_joined (ts : List (Table κ α)) (k : κ) :
    (joined ts).get? k = ts.reverse.findSome? fun t => t.get? k := by
  induction ts using List.reverseRecOn with
  | nil => rfl
  | append_singleton ts t ih =>
      have last : joined (ts ++ [t]) = (joined ts).merge t := by
        rw [joined, List.flatMap_append, ofList, insertMany_append, List.flatMap_singleton]
        rfl
      rw [last, get?_merge, ih, List.reverse_append, List.reverse_singleton,
        List.singleton_append, List.findSome?_cons]
      cases t.get? k <;> rfl

theorem get?_joined_map_eq_some_iff {ds : List δ} {table : δ → Table κ α} {k : κ} {v : α} :
    (joined (ds.map table)).get? k = some v ↔
      ∃ before d after, ds = before ++ d :: after ∧ (table d).get? k = some v ∧
        ∀ e ∈ after, k ∉ (table e).keys := by
  rw [get?_joined, ← List.map_reverse, List.findSome?_map, List.findSome?_eq_some_iff]
  constructor
  · rintro ⟨after, d, before, split, found, none⟩
    refine ⟨before.reverse, d, after.reverse, by simpa using congrArg List.reverse split, found, ?_⟩
    exact fun e member => get?_eq_none_iff.mp (none e (by simpa using member))
  · rintro ⟨before, d, after, rfl, found, none⟩
    refine ⟨after.reverse, d, before.reverse, by simp, found, ?_⟩
    exact fun e member => get?_eq_none_iff.mpr (none e (by simpa using member))

end Table

namespace Declarations

theorem variableTable_joined (ds : List Declarations) :
    (joined ds).variableTable = .joined (ds.map fun d => d.variableTable) := by
  simp only [joined, Table.joined, List.flatMap_map]

theorem functionTable_joined (ds : List Declarations) :
    (joined ds).functionTable = .joined (ds.map fun d => d.functionTable) := by
  simp only [joined, Table.joined, List.flatMap_map]

end Declarations

namespace Documents

variable {α : Type} {ops : List Operation} {place : Nat} {uri : String} {text : Text}

/-- Behind a document that stands are those that were updated after it. -/
theorem mem_after_iff {before after : List (String × Text)}
    (split : standing ops = before ++ (uri, text) :: after)
    (last : LastUpdate ops place uri text) {other : String} {newer : Text} :
    (other, newer) ∈ after ↔
      ∃ later, place < later ∧ LastUpdate ops later other newer := by
  have ordered := standing_ordered ops
  rw [split, List.map_append, List.map_cons, List.pairwise_append, List.pairwise_cons] at ordered
  obtain ⟨-, ⟨behind, -⟩, ahead⟩ := ordered
  constructor
  · intro member
    obtain ⟨i, j, s, t, first, second, less⟩ := behind other (List.mem_map.mpr ⟨_, member, rfl⟩)
    obtain ⟨later, stands⟩ : ∃ later, LastUpdate ops later other newer :=
      mem_standing_iff.mp (by simp [split, member])
    obtain ⟨rfl, -⟩ := first.unique last
    obtain ⟨rfl, -⟩ := second.unique stands
    exact ⟨j, less, stands⟩
  · rintro ⟨later, less, stands⟩
    have member : (other, newer) ∈ before ++ (uri, text) :: after :=
      split ▸ mem_standing_iff.mpr ⟨later, stands⟩
    rcases List.mem_append.mp member with early | here
    · obtain ⟨i, j, s, t, first, second, earlier⟩ :=
        ahead other (List.mem_map.mpr ⟨_, early, rfl⟩) uri (by simp)
      obtain ⟨rfl, -⟩ := first.unique stands
      obtain ⟨rfl, -⟩ := second.unique last
      omega
    · rcases List.mem_cons.mp here with same | behind
      · cases same
        obtain ⟨rfl, -⟩ := stands.unique last
        omega
      · exact behind

/-- The declarations of one kind that the documents left by a run have, in the
    order of the documents. -/
def tables (ops : List Operation) (kind : Declarations → Table Text α) : List (Table Text α) :=
  (after ∅ ops).tracked.values.map fun t => kind t.declarations

theorem tables_eq (ops : List Operation) (kind : Declarations → Table Text α) :
    tables ops kind = (standing ops).map fun d => kind (.ofText d.2) := by
  simp [tables, Table.values, entries_after, Function.comp_def, TrackedDocument.ofText]

/-- The names of a view are those that the documents left by a run declare, each
    once and in the order in which they first come up. The document updated last
    among those that declare a name says what it means. -/
structure ByRecency (ops : List Operation) (kind : Declarations → Table Text α)
    (view : Table Text α) : Prop where
  declared : ∀ name, name ∈ view.keys ↔
    ∃ t ∈ (after ∅ ops).tracked.values, name ∈ (kind t.declarations).keys
  distinct : view.keys.Nodup
  record : ∀ name r, view.get? name = some r ↔
    ∃ place uri text, LastUpdate ops place uri text ∧
      (kind (.ofText text)).get? name = some r ∧
      ∀ later other newer, place < later → LastUpdate ops later other newer →
        name ∉ (kind (.ofText newer)).keys
  ordered : view.keys =
    ((after ∅ ops).tracked.values.flatMap fun t => (kind t.declarations).keys).eraseDups

theorem byRecency_joined (ops : List Operation) (kind : Declarations → Table Text α) :
    ByRecency ops kind (.joined (tables ops kind)) := by
  constructor
  case declared =>
    intro name
    rw [Table.keys_joined, List.mem_eraseDups, tables, List.flatMap_map, List.mem_flatMap]
  case distinct => exact Table.keys_nodup _
  case record =>
    intro name r
    rw [tables_eq, Table.get?_joined_map_eq_some_iff]
    constructor
    · rintro ⟨before, ⟨uri, text⟩, after, split, found, none⟩
      obtain ⟨place, last⟩ : ∃ place, LastUpdate ops place uri text :=
        mem_standing_iff.mp (by simp [split])
      refine ⟨place, uri, text, last, found, fun later other newer less last' => ?_⟩
      exact none (other, newer) ((mem_after_iff split last).mpr ⟨later, less, last'⟩)
    · rintro ⟨place, uri, text, last, found, none⟩
      obtain ⟨before, after, split⟩ := List.append_of_mem (mem_standing_iff.mpr ⟨place, last⟩)
      refine ⟨before, (uri, text), after, split, found, ?_⟩
      rintro ⟨other, newer⟩ member
      obtain ⟨later, less, last'⟩ := (mem_after_iff split last).mp member
      exact none later other newer less last'
  case ordered => rw [Table.keys_joined, tables, List.flatMap_map]

/-- Two documents declare a name, and none updated after the first does but the
    second, which was updated later. -/
def LastTwo (ops : List Operation) (kind : Declarations → Table Text α) (name : Text)
    (first : String) (s : Text) (second : String) (t : Text) : Prop :=
  ∃ i j, LastUpdate ops i first s ∧ LastUpdate ops j second t ∧ i < j ∧
    name ∈ (kind (.ofText s)).keys ∧ name ∈ (kind (.ofText t)).keys ∧
    ∀ k other text, LastUpdate ops k other text → i < k → k ≠ j →
      name ∉ (kind (.ofText text)).keys

/-- Of two documents the second hides what the first says of a name, until it is
    forgotten. -/
theorem ByRecency.uncovered {kind : Declarations → Table Text α} {name : Text}
    {first second : String} {s t : Text} {view bared : Table Text α}
    (before : ByRecency ops kind view) (two : LastTwo ops kind name first s second t)
    (after : ByRecency (ops ++ [.forget second]) kind bared) :
    view.get? name = (kind (.ofText t)).get? name ∧
      bared.get? name = (kind (.ofText s)).get? name := by
  obtain ⟨i, j, last, last', less, declares, declares', silent⟩ := two
  have stays : ∀ k other text, LastUpdate (ops ++ [.forget second]) k other text ↔
      LastUpdate ops k other text ∧ other ≠ second := by
    intro k other text
    rw [lastUpdate_append_singleton (by simp)]
    simp [Operation.supersedes]
  have found : ∀ table : Table Text α, name ∈ table.keys → ∃ r, table.get? name = some r :=
    fun _ known => Option.ne_none_iff_exists'.mp fun none => Table.get?_eq_none_iff.mp none known
  constructor
  · obtain ⟨r, holds⟩ := found _ declares'
    rw [holds, before.record]
    refine ⟨j, second, t, last', holds, fun later other newer behind stands => ?_⟩
    exact silent later other newer stands (by omega) (by omega)
  · obtain ⟨r, holds⟩ := found _ declares
    rw [holds, after.record]
    have different : first ≠ second := by
      rintro rfl
      obtain ⟨rfl, -⟩ := last.unique last'
      omega
    refine ⟨i, first, s, (stays _ _ _).mpr ⟨last, different⟩, holds, ?_⟩
    intro later other newer behind stands
    obtain ⟨stands, remains⟩ := (stays _ _ _).mp stands
    refine silent later other newer stands behind ?_
    rintro rfl
    have same := stands.updated.symm.trans last'.updated
    simp only [Option.some.injEq, Operation.update.injEq] at same
    exact remains same.1

/-- What is visible from everywhere after a run, whoever asks. -/
def sharedAfter (uri : Option String) (ops : List Operation) : Declarations :=
  (after ∅ ops).visible uri true

section SharedAfter

variable {kind : Declarations → Table Text α}
  (joins : ∀ ds, kind (.joined ds) = .joined (ds.map kind)) (uri : Option String)

include joins

theorem kind_sharedAfter (ops : List Operation) :
    kind (sharedAfter uri ops) = .joined (tables ops kind) := by
  have view : sharedAfter uri ops = .joined _ := shared_eq_joined (after ∅ ops)
  rw [view, joins, List.map_map]
  rfl

theorem byRecency_sharedAfter (ops : List Operation) :
    ByRecency ops kind (kind (sharedAfter uri ops)) := by
  rw [kind_sharedAfter joins uri ops]
  exact byRecency_joined ops kind

theorem uncovered_sharedAfter (ops : List Operation) (name : Text) (first : String) (s : Text)
    (second : String) (t : Text) (two : LastTwo ops kind name first s second t) :
    (kind (sharedAfter uri ops)).get? name = (kind (.ofText t)).get? name ∧
      (kind (sharedAfter uri (ops ++ [.forget second]))).get? name =
        (kind (.ofText s)).get? name :=
  (byRecency_sharedAfter joins uri ops).uncovered two (byRecency_sharedAfter joins uri _)

theorem kind_sharedAfter_congr {ops other : List Operation}
    (same : tables other kind = tables ops kind) :
    kind (sharedAfter uri other) = kind (sharedAfter uri ops) := by
  rw [kind_sharedAfter joins, kind_sharedAfter joins, same]

end SharedAfter

/-- After every run the documents stand in the order of their last updates, and the
    shared view resolves the names of variables by recency, and the names of
    functions likewise. Forgetting the document that decides on a name brings back
    what the one updated last before it says. The variables of the view depend on
    nothing but the variables of the documents, and the functions on nothing but
    their functions. -/
theorem shared_view_by_recency (ops : List Operation) (uri : Option String) :
    ((after ∅ ops).perform (.query uri true)).answer = .declarations (sharedAfter uri ops) ∧
    (after ∅ ops).uris.Pairwise (UpdatedBefore ops) ∧
    ByRecency ops (·.variableTable) (sharedAfter uri ops).variableTable ∧
    ByRecency ops (·.functionTable) (sharedAfter uri ops).functionTable ∧
    (∀ name first s second t, LastTwo ops (·.variableTable) name first s second t →
      (sharedAfter uri ops).variableTable.get? name =
        (Declarations.ofText t).variableTable.get? name ∧
      (sharedAfter uri (ops ++ [.forget second])).variableTable.get? name =
        (Declarations.ofText s).variableTable.get? name) ∧
    (∀ name first s second t, LastTwo ops (·.functionTable) name first s second t →
      (sharedAfter uri ops).functionTable.get? name =
        (Declarations.ofText t).functionTable.get? name ∧
      (sharedAfter uri (ops ++ [.forget second])).functionTable.get? name =
        (Declarations.ofText s).functionTable.get? name) ∧
    ∀ other : List Operation,
      (tables other (·.variableTable) = tables ops (·.variableTable) →
        (sharedAfter uri other).variableTable = (sharedAfter uri ops).variableTable) ∧
      (tables other (·.functionTable) = tables ops (·.functionTable) →
        (sharedAfter uri other).functionTable = (sharedAfter uri ops).functionTable) := by
  have variables' := Declarations.variableTable_joined
  have functions' := Declarations.functionTable_joined
  refine ⟨rfl, ?_, byRecency_sharedAfter variables' uri ops,
    byRecency_sharedAfter functions' uri ops, uncovered_sharedAfter variables' uri ops,
    uncovered_sharedAfter functions' uri ops, fun other => ⟨?_, ?_⟩⟩
  · rw [uris_after]
    exact standing_ordered ops
  · exact kind_sharedAfter_congr variables' uri
  · exact kind_sharedAfter_congr functions' uri

/-- Two documents declare a variable, and the second of them and a third a function. -/
def declaredTwice : List Operation :=
  [.update "a" "let x:t=1;".toList, .update "b" "let x:u=2;fn f():t\x7b\x7d".toList,
    .update "c" "fn f():u\x7b\x7d".toList]

/-- The same variables beside other functions, in other documents. -/
def sameVariables : List Operation :=
  [.update "d" "let x:t=1;".toList, .update "e" "fn g():t\x7b\x7dlet x:u=2;".toList,
    .update "f" []]

/-- The same functions beside other variables. -/
def sameFunctions : List Operation :=
  [.update "a" [], .update "b" "fn f():t\x7b\x7d".toList,
    .update "c" "let x:v=3;fn f():u\x7b\x7d".toList]

theorem shared_view_declaredTwice :
    ((sharedAfter none declaredTwice).variableTable.get? ['x']).map (·.declaredType) = some ['u'] ∧
    ((sharedAfter none (declaredTwice ++ [.forget "b"])).variableTable.get? ['x']).map
      (·.declaredType) = some ['t'] ∧
    ((sharedAfter none (declaredTwice ++ [.forget "c"])).functionTable.get? ['f']).map
      (·.returnType) = some ['t'] ∧
    (sharedAfter none sameVariables).variableTable =
      (sharedAfter none declaredTwice).variableTable ∧
    (sharedAfter none sameFunctions).functionTable =
      (sharedAfter none declaredTwice).functionTable := by
  obtain ⟨-, -, -, -, ofVariables, ofFunctions, independent⟩ :=
    shared_view_by_recency declaredTwice none
  have first : LastUpdate declaredTwice 0 "a" _ := ⟨rfl, by decide⟩
  have second : LastUpdate declaredTwice 1 "b" _ := ⟨rfl, by decide⟩
  have third : LastUpdate declaredTwice 2 "c" _ := ⟨rfl, by decide⟩
  have short : ∀ {k other text}, LastUpdate declaredTwice k other text → k < 3 :=
    fun last => (List.getElem?_eq_some_iff.mp last.updated).1
  have twoVariables : LastTwo declaredTwice (·.variableTable) ['x'] "a" "let x:t=1;".toList
      "b" "let x:u=2;fn f():t\x7b\x7d".toList := by
    refine ⟨0, 1, first, second, by decide, by decide, by decide, ?_⟩
    intro k other text last less ne
    obtain rfl : k = 2 := by have := short last; omega
    obtain ⟨rfl, rfl⟩ : "c" = other ∧ _ = text := by
      simpa only [Option.some.injEq, Operation.update.injEq] using
        third.updated.symm.trans last.updated
    decide
  have twoFunctions : LastTwo declaredTwice (·.functionTable) ['f']
      "b" "let x:u=2;fn f():t\x7b\x7d".toList "c" "fn f():u\x7b\x7d".toList := by
    refine ⟨1, 2, second, third, by decide, by decide, by decide, ?_⟩
    intro k other text last less ne
    have := short last
    omega
  obtain ⟨shown, uncovered⟩ := ofVariables _ _ _ _ _ twoVariables
  obtain ⟨-, uncovered'⟩ := ofFunctions _ _ _ _ _ twoFunctions
  have alike : tables sameVariables (·.variableTable) = tables declaredTwice (·.variableTable) :=
    List.map_injective_iff.mpr (fun _ _ => Table.ext) (by decide)
  have alike' : tables sameFunctions (·.functionTable) = tables declaredTwice (·.functionTable) :=
    List.map_injective_iff.mpr (fun _ _ => Table.ext) (by decide)
  rw [shown, uncovered, uncovered']
  exact ⟨by decide, by decide, by decide, (independent sameVariables).1 alike,
    (independent sameFunctions).2 alike'⟩

end Documents

end Tron
