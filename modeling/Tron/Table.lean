/-! # Tables

Finite maps that remember the order in which their keys first came in. A key
that is inserted again keeps its place and takes the new value.
-/

namespace Tron

/-- A table of values by key, in the order of first insertion. -/
structure Table (κ α : Type) where
  entries : List (κ × α) := []
  keys_nodup : (entries.map Prod.fst).Nodup := by simp

namespace Table

variable {κ α : Type}

instance : EmptyCollection (Table κ α) := ⟨{}⟩

instance : Inhabited (Table κ α) := ⟨∅⟩

@[ext] theorem ext {t u : Table κ α} (h : t.entries = u.entries) : t = u := by
  cases t; cases u; cases h; rfl

def keys (t : Table κ α) : List κ := t.entries.map Prod.fst

def values (t : Table κ α) : List α := t.entries.map Prod.snd

def size (t : Table κ α) : Nat := t.entries.length

def isEmpty (t : Table κ α) : Bool := t.entries.isEmpty

variable [DecidableEq κ]

def get? (t : Table κ α) (k : κ) : Option α :=
  (t.entries.find? fun e => e.1 = k).map Prod.snd

def contains (t : Table κ α) (k : κ) : Bool := t.keys.contains k

/-- The entries with a value put at a key: in place of the old one, or last. -/
def place (k : κ) (v : α) : List (κ × α) → List (κ × α)
  | [] => [(k, v)]
  | e :: es => if e.1 = k then (k, v) :: es else e :: place k v es

/-- Placing a value adds its key at the end, if it is a new one. -/
theorem map_fst_place (k : κ) (v : α) (es : List (κ × α)) :
    (place k v es).map Prod.fst =
      if k ∈ es.map Prod.fst then es.map Prod.fst else es.map Prod.fst ++ [k] := by
  induction es with
  | nil => simp [place]
  | cons e es ih =>
    by_cases he : e.1 = k
    · simp [place, he]
    · simp only [place, he, if_false, List.map_cons, ih, List.mem_cons, Ne.symm he, false_or]
      split <;> simp

theorem nodup_place (k : κ) (v : α) {es : List (κ × α)} (h : (es.map Prod.fst).Nodup) :
    ((place k v es).map Prod.fst).Nodup := by
  rw [map_fst_place]
  split
  · exact h
  · next hk => exact List.nodup_append.2 ⟨h, by simp, by rintro a ha _ hb rfl; simp_all⟩

/-- Put a value at a key. A known key keeps its place. -/
def insert (t : Table κ α) (k : κ) (v : α) : Table κ α where
  entries := place k v t.entries
  keys_nodup := nodup_place k v t.keys_nodup

def erase (t : Table κ α) (k : κ) : Table κ α where
  entries := t.entries.filter fun e => e.1 ≠ k
  keys_nodup := (List.filter_sublist.map _).nodup t.keys_nodup

def insertMany (t : Table κ α) (es : List (κ × α)) : Table κ α :=
  es.foldl (fun t e => t.insert e.1 e.2) t

def ofList (es : List (κ × α)) : Table κ α := (∅ : Table κ α).insertMany es

/-- Insert the entries of a second table into a first one. -/
def merge (t u : Table κ α) : Table κ α := t.insertMany u.entries

theorem keys_insert (t : Table κ α) (k : κ) (v : α) :
    (t.insert k v).keys = if k ∈ t.keys then t.keys else t.keys ++ [k] :=
  map_fst_place k v t.entries

/-- Among entries with distinct keys, the first one with a key is the only one. -/
theorem lookup_eq_some_iff {es : List (κ × α)} (distinct : (es.map Prod.fst).Nodup) {k : κ}
    {v : α} : (es.find? fun e => e.1 = k).map Prod.snd = some v ↔ (k, v) ∈ es := by
  induction es with
  | nil => simp
  | cons e es ih =>
    rw [List.map_cons] at distinct
    obtain ⟨absent, rest⟩ := List.nodup_cons.mp distinct
    by_cases same : e.1 = k
    · subst same
      have other : (e.1, v) ∉ es := fun member => absent (List.mem_map.mpr ⟨_, member, rfl⟩)
      simp [Prod.ext_iff, other, eq_comm]
    · have elsewhere : (k, v) ≠ e := fun equal => same (equal ▸ rfl)
      simpa [same, elsewhere] using ih rest

theorem get?_eq_some_iff {t : Table κ α} {k : κ} {v : α} :
    t.get? k = some v ↔ (k, v) ∈ t.entries :=
  lookup_eq_some_iff t.keys_nodup

theorem get?_eq_none_iff {t : Table κ α} {k : κ} : t.get? k = none ↔ k ∉ t.keys := by
  simp only [get?, keys, Option.map_eq_none_iff, List.find?_eq_none, decide_eq_true_eq,
    List.mem_map, not_exists, not_and]

/-- An insertion is seen at its own key and nowhere else. -/
theorem get?_insert (t : Table κ α) (k i : κ) (v : α) :
    (t.insert k v).get? i = if k = i then some v else t.get? i := by
  have h : ∀ es : List (κ × α), ((place k v es).find? fun e => e.1 = i).map Prod.snd =
      if k = i then some v else (es.find? fun e => e.1 = i).map Prod.snd := by
    intro es
    induction es with
    | nil => by_cases hk : k = i <;> simp [place, hk]
    | cons e es ih =>
      by_cases he : e.1 = k
      · by_cases hk : k = i <;> simp [place, he, hk]
      · by_cases hi : e.1 = i
        · have hk : k ≠ i := fun hk => he (hi.trans hk.symm)
          simp [place, hi, hk, Ne.symm hk]
        · simp [place, he, hi, ih]
  exact h t.entries

/-- To insert what is there changes nothing. -/
theorem insert_of_get? {t : Table κ α} {k : κ} {v : α} (here : t.get? k = some v) :
    t.insert k v = t := by
  have h : ∀ es : List (κ × α), ((es.find? fun e => e.1 = k).map Prod.snd) = some v →
      place k v es = es := by
    intro es found
    induction es with
    | nil => simp at found
    | cons e es ih =>
      by_cases he : e.1 = k
      · have same : e = (k, v) := by simpa [he, Prod.ext_iff] using found
        simp [place, same]
      · simp only [place, he, if_false, ih (by simpa [he] using found)]
  exact Table.ext (h t.entries here)

theorem get?_erase (t : Table κ α) (k i : κ) :
    (t.erase k).get? i = if k = i then none else t.get? i := by
  have h : ∀ es : List (κ × α), ((es.filter fun e => e.1 ≠ k).find? fun e => e.1 = i) =
      if k = i then none else es.find? fun e => e.1 = i := by
    intro es
    induction es with
    | nil => simp
    | cons e es ih =>
      by_cases he : e.1 = k
      · rw [List.filter_cons_of_neg (by simp [he]), ih]
        by_cases hk : k = i <;> simp [hk, he]
      · rw [List.filter_cons_of_pos (by simp [he])]
        by_cases hi : e.1 = i
        · have hk : k ≠ i := fun hk => he (hi.trans hk.symm)
          simp [hi, hk]
        · simp only [List.find?_cons, hi, decide_false, ih]
  simp only [get?, erase, h]
  split <;> rfl

end Table

end Tron
