import Mathlib.Data.List.Induction
import Tron.Table

/-! # Inserting entries one after another

A table that is built entry by entry has its keys in the order in which they first
came in, and under each key the value that came in last.
-/

namespace Tron

namespace Table

variable {κ α : Type} [DecidableEq κ]

theorem place_of_not_mem {k : κ} {es : List (κ × α)} (absent : k ∉ es.map Prod.fst) (v : α) :
    place k v es = es ++ [(k, v)] := by
  induction es with
  | nil => rfl
  | cons e es ih =>
      simp only [List.map_cons, List.mem_cons, not_or] at absent
      simp only [place, Ne.symm absent.1, if_false, ih absent.2, List.cons_append]

theorem insertMany_append (t : Table κ α) (es fs : List (κ × α)) :
    t.insertMany (es ++ fs) = (t.insertMany es).insertMany fs :=
  List.foldl_append

/-- The last of the entries with a key decides, and without one the table itself. -/
theorem get?_insertMany (t : Table κ α) (es : List (κ × α)) (k : κ) :
    (t.insertMany es).get? k =
      ((es.reverse.find? fun e => e.1 = k).map Prod.snd).or (t.get? k) := by
  induction es generalizing t with
  | nil => rfl
  | cons e es ih =>
      have unfolded : t.insertMany (e :: es) = (t.insert e.1 e.2).insertMany es := rfl
      rw [unfolded, ih, get?_insert, List.reverse_cons, List.find?_append]
      by_cases same : e.1 = k
      · cases es.reverse.find? fun e => e.1 = k <;> simp [same]
      · simp [same]

/-- Where both tables have a key, the one merged in last decides. -/
theorem get?_merge (t u : Table κ α) (k : κ) :
    (t.merge u).get? k = (u.get? k).or (t.get? k) := by
  have backwards : (u.entries.reverse.find? fun e => e.1 = k).map Prod.snd = u.get? k := by
    have distinct : (u.entries.reverse.map Prod.fst).Nodup := by
      rw [List.map_reverse]
      exact (List.reverse_perm _).nodup_iff.mpr u.keys_nodup
    ext v
    rw [lookup_eq_some_iff distinct, get?_eq_some_iff, List.mem_reverse]
  rw [merge, get?_insertMany, backwards]

/-- The keys stand as they first come up. -/
theorem keys_ofList [BEq κ] [LawfulBEq κ] (es : List (κ × α)) :
    (ofList es).keys = (es.map Prod.fst).eraseDups := by
  induction es using List.reverseRecOn with
  | nil => rfl
  | append_singleton es e ih =>
      have last : ofList (es ++ [e]) = (ofList es).insert e.1 e.2 := insertMany_append ∅ es [e]
      rw [last, keys_insert, ih, List.map_append, List.map_singleton, List.eraseDups_append]
      by_cases known : e.1 ∈ es.map Prod.fst
      · simp [known, List.removeAll]
      · simp [known, List.removeAll, List.eraseDups_cons]

/-- The table that entries make when they are inserted one after another: a
    repeated key keeps its first place and takes its last value. -/
structure InsertedFrom [BEq κ] (t : Table κ α) (es : List (κ × α)) : Prop where
  keys : t.keys = (es.map Prod.fst).eraseDups
  value : ∀ k v, t.get? k = some v ↔
    ∃ before after, es = before ++ (k, v) :: after ∧ k ∉ after.map Prod.fst

theorem insertedFrom_ofList [BEq κ] [LawfulBEq κ] (es : List (κ × α)) :
    (ofList es).InsertedFrom es where
  keys := keys_ofList es
  value := by
    intro k v
    have empty : (∅ : Table κ α).get? k = none := rfl
    rw [ofList, get?_insertMany, empty, Option.or_none, Option.map_eq_some_iff]
    constructor
    · intro found
      obtain ⟨e, first, rfl⟩ := found
      rw [List.find?_eq_some_iff_append] at first
      obtain ⟨here, after, before, split, others⟩ := first
      obtain rfl : e.1 = k := by simpa using here
      refine ⟨before.reverse, after.reverse, by simpa using congrArg List.reverse split, ?_⟩
      intro again
      obtain ⟨f, member, same⟩ := List.mem_map.mp again
      simpa [same] using others f (List.mem_reverse.mp member)
    · intro inserted
      obtain ⟨before, after, rfl, others⟩ := inserted
      refine ⟨(k, v), ?_, rfl⟩
      rw [List.find?_eq_some_iff_append]
      refine ⟨by simp, after.reverse, before.reverse, by simp, fun f member => ?_⟩
      have other : f.1 ≠ k := fun same =>
        others (List.mem_map.mpr ⟨f, List.mem_reverse.mp member, same⟩)
      simp [other]

/-- A table is known from its keys in order and the values at them. -/
theorem eq_of_keys_of_get? {t u : Table κ α} (keys : t.keys = u.keys)
    (values : ∀ k, t.get? k = u.get? k) : t = u := by
  have lookups : ∀ t : Table κ α,
      t.entries.map some = t.keys.map fun k => (t.get? k).map fun v => (k, v) := by
    intro t
    rw [Table.keys, List.map_map]
    apply List.map_congr_left
    intro e member
    have here : t.get? e.1 = some e.2 := get?_eq_some_iff.mpr member
    simp [here]
  apply Table.ext
  rw [← List.map_inj_right (fun _ _ => Option.some.inj), lookups t, lookups u, keys]
  simp only [values]

/-- There is one such table. -/
theorem InsertedFrom.eq_ofList [BEq κ] [LawfulBEq κ] {t : Table κ α} {es : List (κ × α)}
    (inserted : t.InsertedFrom es) : t = ofList es := by
  have made := insertedFrom_ofList es
  refine eq_of_keys_of_get? (inserted.keys.trans made.keys.symm) fun k => ?_
  ext v
  exact (inserted.value k v).trans (made.value k v).symm

/-- What becomes of a table when entries are inserted further: its keys stay in front
    and in order, and a value differs only if one of the entries gives it. -/
structure Continues (u t : Table κ α) (es : List (κ × α)) : Prop where
  keys : t.keys <+: u.keys
  value : ∀ k, u.get? k = t.get? k ∨ ∃ v, (k, v) ∈ es ∧ u.get? k = some v

theorem continues_ofList_append (es fs : List (κ × α)) :
    (ofList (es ++ fs)).Continues (ofList es) fs where
  keys := by
    rw [keys_ofList, keys_ofList, List.map_append, List.eraseDups_append]
    exact List.prefix_append _ _
  value := by
    intro k
    have both : (ofList (es ++ fs)).get? k =
        ((fs.reverse.find? fun e => e.1 = k).map Prod.snd).or ((ofList es).get? k) := by
      rw [ofList, insertMany_append, get?_insertMany]
      rfl
    cases found : fs.reverse.find? fun e => e.1 = k with
    | none =>
        left
        rw [both, found]
        rfl
    | some e =>
        right
        have same : e.1 = k := by simpa using List.find?_some found
        refine ⟨e.2, ?_, by rw [both, found]; rfl⟩
        rw [← same]
        exact List.mem_reverse.mp (List.mem_of_find?_eq_some found)

end Table

end Tron
