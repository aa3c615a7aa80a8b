import Mathlib.Data.Set.Defs
import Tron.Project.FileTree

/-! # What changes in a file tree

Making directories and writing files never takes anything away and never turns a
file into a directory or the other way round. Only the files written change or come
in, besides new directories. What a path leads to stays what it leads to.
-/

namespace Tron

def FileEntry.isDirectory : FileEntry → Bool
  | .directory => true
  | .file _ => false

namespace FileTree

/-- A tree becomes another by making directories and writing files at some places. -/
structure Changes (written : Set Place) (t u : FileTree) : Prop where
  /-- Nothing is removed, and nothing changes its kind. -/
  kept : ∀ place entry, t.entry? place = some entry →
    ∃ entry', u.entry? place = some entry' ∧ entry'.isDirectory = entry.isDirectory
  /-- Other files keep their contents. -/
  contents : ∀ place contents, t.entry? place = some (.file contents) → place ∉ written →
    u.entry? place = some (.file contents)
  /-- What is new is a directory or was written. -/
  added : ∀ place entry, t.entry? place = none → u.entry? place = some entry →
    entry = .directory ∨ place ∈ written

theorem entry?_put (t : FileTree) {place : Place} (below : place ≠ []) (entry : FileEntry)
    (other : Place) :
    entry? (t.put place entry) other = if place = other then some entry else t.entry? other := by
  cases other with
  | nil => exact (if_neg below).symm
  | cons name names => exact Table.get?_insert _ _ _ _

namespace Changes

variable {written more : Set Place} {t u v : FileTree}

theorem refl (t : FileTree) : Changes written t t where
  kept := fun place entry here => ⟨entry, here, rfl⟩
  contents := fun place contents here _ => here
  added := fun place entry absent here => by simp [absent] at here

theorem mono (changes : Changes written t u) (covered : ∀ place ∈ written, place ∈ more) :
    Changes more t u where
  kept := changes.kept
  contents := fun place contents here outside =>
    changes.contents place contents here fun member => outside (covered place member)
  added := fun place entry absent here =>
    (changes.added place entry absent here).imp_right (covered place)

theorem directory (changes : Changes written t u) {place : Place}
    (here : t.entry? place = some .directory) : u.entry? place = some .directory := by
  obtain ⟨entry, after, kind⟩ := changes.kept place .directory here
  cases entry with
  | directory => exact after
  | file contents => cases kind

theorem trans (first : Changes written t u) (second : Changes written u v) :
    Changes written t v where
  kept := by
    intro place entry here
    obtain ⟨between, middle, kind⟩ := first.kept place entry here
    obtain ⟨after, last, kind'⟩ := second.kept place between middle
    exact ⟨after, last, kind'.trans kind⟩
  contents := by
    intro place contents here outside
    exact second.contents place contents (first.contents place contents here outside) outside
  added := by
    intro place entry absent last
    cases middle : u.entry? place with
    | none => exact second.added place entry middle last
    | some between =>
        rcases first.added place between absent middle with made | here
        · subst made
          have same := (second.directory middle).symm.trans last
          exact Or.inl (Option.some.inj same).symm
        · exact Or.inr here

end Changes

section Steps

variable {t u : FileTree} {place : Place} {written : Set Place}

theorem ne_nil_of_not_directory (other : t.entry? place ≠ some .directory) : place ≠ [] := by
  intro top
  subst top
  exact other rfl

/-- An entry that does not change the kind of an earlier one, and is a directory or
    among those written. -/
theorem changes_put {entry : FileEntry} (below : place ≠ [])
    (kind : ∀ earlier, t.entry? place = some earlier → earlier.isDirectory = entry.isDirectory)
    (allowed : entry = .directory ∨ place ∈ written) :
    Changes written t (t.put place entry) := by
  have here : entry? (t.put place entry) place = some entry := by
    rw [entry?_put t below, if_pos rfl]
  have elsewhere : ∀ other, place ≠ other → entry? (t.put place entry) other = t.entry? other := by
    intro other apart
    rw [entry?_put t below, if_neg apart]
  constructor
  case kept =>
    intro other earlier before
    by_cases same : place = other
    · subst same
      exact ⟨entry, here, (kind earlier before).symm⟩
    · exact ⟨earlier, (elsewhere other same).trans before, rfl⟩
  case contents =>
    intro other contents before outside
    by_cases same : place = other
    · subst same
      obtain rfl := allowed.resolve_right outside
      cases kind _ before
    · exact (elsewhere other same).trans before
  case added =>
    intro other later absent after
    by_cases same : place = other
    · subst same
      rw [here] at after
      exact Option.some.inj after ▸ allowed
    · rw [elsewhere other same, absent] at after
      cases after

/-- A path leads through directories, which stay. -/
theorem follow_of_changes (changes : Changes written t u) {names : List String} {goal : Place}
    (leads : t.follow place names = .ok goal) : u.follow place names = .ok goal := by
  induction names generalizing place with
  | nil => exact leads
  | cons name names ih =>
      cases here : t.entry? place with
      | none => simp [follow, here] at leads
      | some entry =>
          cases entry with
          | file contents => simp [follow, here] at leads
          | directory =>
              have there := changes.directory here
              by_cases up : name = ".."
              · simp only [follow, here, there, up, if_true] at leads ⊢
                exact ih leads
              · simp only [follow, here, there, up, if_false] at leads ⊢
                split
                · next long => simp [long] at leads
                · next short =>
                    rw [if_neg short] at leads
                    exact ih leads

theorem locate_of_changes (changes : Changes written t u) {working : Place} {p : Path}
    {goal : Place} (leads : t.locate working p = .ok goal) : u.locate working p = .ok goal := by
  unfold locate at leads ⊢
  split
  · next long => simp [long] at leads
  · next short =>
      rw [if_neg short] at leads
      exact follow_of_changes changes leads

theorem makeDirectory_eq_ok_iff {working : Place} {p : Path} :
    t.makeDirectory working p = .ok u ↔
      ∃ place, t.locate working p = .ok place ∧ t.entry? place = none ∧
        u = t.put place .directory := by
  cases leads : t.locate working p with
  | error refusal => simp [makeDirectory, leads, bind, Except.bind]
  | ok place =>
      cases here : t.entry? place <;>
        simp [makeDirectory, leads, here, bind, Except.bind, eq_comm (a := u)]

theorem writeFile_eq_ok_iff {working : Place} {p : Path} {contents : String} :
    t.writeFile working p contents = .ok u ↔
      ∃ place, t.locate working p = .ok place ∧ t.entry? place ≠ some .directory ∧
        u = t.put place (.file contents) := by
  cases leads : t.locate working p with
  | error refusal => simp [writeFile, leads, bind, Except.bind]
  | ok place =>
      by_cases directory : t.entry? place = some .directory <;>
        simp [writeFile, leads, directory, bind, Except.bind, eq_comm (a := u)]

theorem changes_makeDirectory {working : Place} {p : Path}
    (made : t.makeDirectory working p = .ok u) : Changes written t u := by
  obtain ⟨place, -, absent, rfl⟩ := makeDirectory_eq_ok_iff.mp made
  have other : t.entry? place ≠ some .directory := by simp [absent]
  exact changes_put (ne_nil_of_not_directory other) (by simp [absent]) (Or.inl rfl)

theorem changes_writeFile {working : Place} {p : Path} {contents : String}
    (wrote : t.writeFile working p contents = .ok u) :
    ∃ place, t.locate working p = .ok place ∧ Changes {place} t u := by
  obtain ⟨place, leads, other, rfl⟩ := writeFile_eq_ok_iff.mp wrote
  refine ⟨place, leads, changes_put (ne_nil_of_not_directory other) ?_ (Or.inr rfl)⟩
  intro earlier before
  cases earlier with
  | directory => exact absurd before other
  | file contents => rfl

/-- Directories are made one after another, and those made before a fault stay. -/
theorem changes_ensureDirectory (working : Place) (t : FileTree) (p : Path) :
    Changes written t (ensureDirectory working t p).1 := by
  fun_induction ensureDirectory working t p with
  | case1 p made step => exact changes_makeDirectory step
  | case2 | case7 | case8 => exact Changes.refl t
  | case3 p missing named above fault outcome ih =>
      rw [outcome] at ih
      exact ih
  | case4 p missing named above outcome made step ih =>
      rw [outcome] at ih
      exact ih.trans (changes_makeDirectory step)
  | case5 p missing named above outcome refusal step there ih =>
      rw [outcome] at ih
      exact ih
  | case6 p missing named above outcome refusal step absent ih =>
      rw [outcome] at ih
      exact ih

end Steps

end FileTree

end Tron
