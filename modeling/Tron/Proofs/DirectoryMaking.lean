import Tron.Proofs.FileEffects

/-! # Making sure of a directory

A path leads somewhere only through directories, so whoever stands at the end of a
path stands below a directory. That is why making sure of a directory ends without a
fault exactly if the directory is there afterwards, and why a second time changes
nothing, even where the first one broke off after it had made some of the directories
above.
-/

namespace Tron

namespace Path

variable {p : Path}

theorem text_of_names_nil (bare : p.names = []) : p.text = "." ∨ p.text = "/" ∨ p.text = "//" := by
  obtain ⟨anchor, names⟩ := p
  cases bare
  cases anchor with
  | here => exact Or.inl rfl
  | top => exact Or.inr (Or.inl rfl)
  | doubleTop => exact Or.inr (Or.inr rfl)

theorem text_below (named : p.names ≠ []) {more : List String} (further : more ≠ []) :
    (p.below more).text = p.text ++ "/" ++ "/".intercalate more := by
  simp only [text, below, named, and_false, if_false, List.append_eq_nil_iff, false_and,
    String.intercalate_append_of_ne_nil named further, String.append_assoc]

theorem exists_below_parent (named : p.names ≠ []) : ∃ name, p = p.parent.below [name] := by
  refine ⟨p.names.getLast named, ?_⟩
  simp [parent, below, List.dropLast_concat_getLast named]

theorem utf8ByteSize_text_parent (named : p.names ≠ []) :
    p.parent.text.utf8ByteSize ≤ 2 ∨ p.parent.text.utf8ByteSize ≤ p.text.utf8ByteSize := by
  by_cases bare : p.parent.names = []
  · left
    rcases text_of_names_nil bare with text | text | text
    all_goals
      rw [text]
      decide
  · right
    obtain ⟨name, same⟩ := exists_below_parent named
    rw [congrArg text same, text_below bare (by simp), String.utf8ByteSize_append,
      String.utf8ByteSize_append, Nat.add_assoc]
    exact Nat.le_add_right _ _

end Path

namespace FileTree

variable {written : Set Place} {t u : FileTree} {working place goal : Place} {p : Path}

theorem isDirectory_iff : t.isDirectory working p = true ↔
    ∃ place, t.locate working p = .ok place ∧ t.entry? place = some .directory := by
  unfold isDirectory
  cases t.locate working p with
  | error refusal => simp
  | ok place => simp

theorem isDirectory_of_changes (changes : Changes written t u)
    (there : t.isDirectory working p = true) : u.isDirectory working p = true := by
  obtain ⟨place, leads, here⟩ := isDirectory_iff.mp there
  exact isDirectory_iff.mpr ⟨place, locate_of_changes changes leads, changes.directory here⟩

/-- The last name of a path stands in a directory. -/
theorem exists_of_follow_append {names : List String} {name : String}
    (leads : t.follow place (names ++ [name]) = .ok goal) :
    ∃ above, t.follow place names = .ok above ∧ t.entry? above = some .directory ∧
      (name ≠ ".." → goal = above ++ [name]) := by
  induction names generalizing place with
  | nil =>
      refine ⟨place, rfl, ?_⟩
      cases here : t.entry? place with
      | none => simp [follow, here] at leads
      | some entry =>
          cases entry with
          | file contents => simp [follow, here] at leads
          | directory =>
              refine ⟨rfl, fun down => ?_⟩
              simp only [List.nil_append, follow, here, down, if_false] at leads
              split at leads
              · cases leads
              · exact (Except.ok.inj leads).symm
  | cons first names ih =>
      cases here : t.entry? place with
      | none => simp [follow, here] at leads
      | some entry =>
          cases entry with
          | file contents => simp [follow, here] at leads
          | directory =>
              simp only [List.cons_append, follow, here] at leads ⊢
              split at leads
              · next up =>
                  simp only [up, if_true]
                  exact ih leads
              · next down =>
                  split at leads
                  · cases leads
                  · next short =>
                      simp only [down, short, if_false]
                      exact ih leads

theorem follow_of_locate (leads : t.locate working p = .ok goal) :
    t.follow (if p.anchor = .here then working else []) p.names = .ok goal := by
  unfold locate at leads
  split at leads
  · cases leads
  · exact leads

theorem isDirectory_parent (leads : t.locate working p = .ok goal) (named : p.names ≠ []) :
    t.isDirectory working p.parent = true := by
  have short : ¬ p.parent.text.utf8ByteSize > maxPathBytes := by
    have bound : ¬ p.text.utf8ByteSize > maxPathBytes := by
      intro long
      simp [locate, long] at leads
    have size := Path.utf8ByteSize_text_parent named
    simp only [maxPathBytes] at bound ⊢
    omega
  have follows := follow_of_locate leads
  rw [← List.dropLast_concat_getLast named] at follows
  obtain ⟨above, reached, here, -⟩ := exists_of_follow_append follows
  have located : t.locate working p.parent = .ok above := by
    rw [locate, if_neg short]
    exact reached
  exact isDirectory_iff.mpr ⟨above, located, here⟩

theorem makeDirectory_of_isDirectory (there : t.isDirectory working p = true) :
    t.makeDirectory working p = .error .exists := by
  obtain ⟨place, leads, here⟩ := isDirectory_iff.mp there
  simp [makeDirectory, leads, here, bind, Except.bind]

theorem isDirectory_of_makeDirectory (made : t.makeDirectory working p = .ok u) :
    u.isDirectory working p = true := by
  have changes : Changes ∅ t u := changes_makeDirectory made
  obtain ⟨place, leads, absent, rfl⟩ := makeDirectory_eq_ok_iff.mp made
  have other : t.entry? place ≠ some .directory := by simp [absent]
  have below : place ≠ [] := ne_nil_of_not_directory other
  refine isDirectory_iff.mpr ⟨place, locate_of_changes changes leads, ?_⟩
  rw [entry?_put t below, if_pos rfl]

theorem isDirectory_of_missing (missing : t.makeDirectory working p = .error .missing) :
    t.isDirectory working p = false := by
  cases there : t.isDirectory working p with
  | false => rfl
  | true =>
      rw [makeDirectory_of_isDirectory there] at missing
      cases missing

theorem ensureDirectory_of_isDirectory (there : t.isDirectory working p = true) :
    ensureDirectory working t p = (t, none) := by
  unfold ensureDirectory
  simp [makeDirectory_of_isDirectory there, there]

/-- There is no fault exactly if the directory is there afterwards. -/
theorem ensureDirectory_fault_iff (working : Place) (t : FileTree) (p : Path) :
    (ensureDirectory working t p).2 = none ↔
      (ensureDirectory working t p).1.isDirectory working p = true := by
  fun_induction ensureDirectory working t p with
  | case1 p made step => simp [isDirectory_of_makeDirectory step]
  | case2 p missing bare => simp [isDirectory_of_missing missing]
  | case3 p missing named above fault outcome ih =>
      have absent : above.isDirectory working p = false := by
        rw [outcome] at ih
        cases there : above.isDirectory working p with
        | false => rfl
        | true =>
            obtain ⟨place, leads, -⟩ := isDirectory_iff.mp there
            cases ih.mpr (isDirectory_parent leads named)
      simp [absent]
  | case4 p missing named above outcome made step ih => simp [isDirectory_of_makeDirectory step]
  | case5 p missing named above outcome refusal step there ih => simp [there.2]
  | case6 p missing named above outcome refusal step absent ih =>
      have gone : above.isDirectory working p = false := by
        cases there : above.isDirectory working p with
        | false => rfl
        | true =>
            rw [makeDirectory_of_isDirectory there] at step
            cases step
            simp [there] at absent
      simp [gone]
  | case7 p refusal other step there => simp [there]
  | case8 p refusal other step absent => simp [absent]

/-- Where a directory cannot be made, nothing changes, provided that nothing changes
    where the one above it is missed. -/
theorem ensureDirectory_of_refused {refusal : FileRefusal}
    (refused : t.makeDirectory working p = .error refusal)
    (above : refusal = .missing → p.names ≠ [] → (ensureDirectory working t p.parent).1 = t) :
    (ensureDirectory working t p).1 = t := by
  unfold ensureDirectory
  rw [refused]
  cases refusal with
  | missing =>
      by_cases bare : p.names = []
      · simp [bare]
      · cases outcome : ensureDirectory working t p.parent with
        | mk u fault =>
            have same := above rfl bare
            rw [outcome] at same
            subst same
            cases fault with
            | some fault => simp [bare]
            | none => simp [bare, refused]
  | «exists» | notDirectory | isDirectory | nameTooLong => dsimp only; split <;> rfl

/-- A second time changes nothing. -/
theorem ensureDirectory_again (working : Place) (t : FileTree) (p : Path) :
    (ensureDirectory working (ensureDirectory working t p).1 p).1 =
      (ensureDirectory working t p).1 := by
  fun_induction ensureDirectory working t p with
  | case1 p made step =>
      rw [ensureDirectory_of_isDirectory (isDirectory_of_makeDirectory step)]
  | case2 p missing bare => exact ensureDirectory_of_refused missing fun _ named => absurd bare named
  | case3 p missing named above fault outcome ih =>
      rw [outcome] at ih
      cases step : above.makeDirectory working p with
      | error refusal => exact ensureDirectory_of_refused step fun _ _ => ih
      | ok made =>
          -- the directory above would be there, and then there had been no fault
          obtain ⟨place, leads, -⟩ := makeDirectory_eq_ok_iff.mp step
          have there := isDirectory_parent leads named
          have sound := ensureDirectory_fault_iff working t p.parent
          rw [outcome] at sound
          cases sound.mpr there
  | case4 p missing named above outcome made step ih =>
      rw [ensureDirectory_of_isDirectory (isDirectory_of_makeDirectory step)]
  | case5 p missing named above outcome refusal step there ih =>
      rw [ensureDirectory_of_isDirectory there.2]
  | case6 p missing named above outcome refusal step absent ih =>
      rw [outcome] at ih
      exact ensureDirectory_of_refused step fun _ _ => ih
  | case7 p refusal other step there => rw [ensureDirectory_of_isDirectory there]
  | case8 p refusal other step absent =>
      exact ensureDirectory_of_refused step fun same => absurd same other

end FileTree

end Tron
