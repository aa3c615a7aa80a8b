import Tron.Proofs.LayoutStack
import Tron.Proofs.TrimmedLines

/-! # The laid out text as a normal form

A layout is made from the trimmed lines of a document alone, and has the same
trimmed lines. So a document that is laid out is laid out again without change.
-/

namespace Tron
namespace Layout

open Text

theorem indentation_blank (depth : Nat) : Blank (indentation depth) := by
  induction depth with
  | zero => simp [Blank, indentation]
  | succ depth ih => exact Blank.append (by decide) ih

theorem mem_indentation {depth : Nat} {c : Char} (member : c ∈ indentation depth) : c = ' ' := by
  induction depth with
  | zero => simp [indentation] at member
  | succ depth ih =>
      rcases List.mem_append.mp member with member | member
      · simpa [indentUnit] using member
      · exact ih member

theorem trim_indented {line : Text} (trimmed : Trimmed line) (depth : Nat) :
    trim (indented depth line) = line := by
  cases line with
  | nil => rfl
  | cons c line =>
      have around := trim_eq (indentation_blank depth) (v := []) (by simp [Blank]) trimmed
      simpa [indented] using around

theorem map_trim_arrange {ls : List Text} (trimmed : ∀ line ∈ ls, Trimmed line) (depth : Nat) :
    (arrange depth ls).map trim = ls := by
  induction ls generalizing depth with
  | nil => rfl
  | cons line ls ih =>
      have first := trimmed line List.mem_cons_self
      have rest := ih fun other member => trimmed other (List.mem_cons_of_mem line member)
      simp only [arrange, List.map_cons, trim_indented first, rest]

/-- An indented line can be joined with others and cut off again. -/
theorem indented_plain {line : Text} (trimmed : Trimmed line) (plain : '\n' ∉ line) (depth : Nat) :
    '\n' ∉ indented depth line ∧ (indented depth line).getLast? ≠ some '\r' := by
  cases line with
  | nil => simp [indented]
  | cons c line =>
      simp only [indented, List.isEmpty_cons, Bool.false_eq_true, if_false]
      constructor
      · intro member
        rcases List.mem_append.mp member with member | member
        · exact absurd (mem_indentation member) (by decide)
        · exact plain member
      · intro last
        have own : (c :: line).getLast? = some '\r' := by simpa [List.getLast?_append] using last
        exact absurd (trimmed.last '\r' own) (by decide)

theorem arrange_plain {ls : List Text} (trimmed : ∀ line ∈ ls, Trimmed line)
    (plain : ∀ line ∈ ls, '\n' ∉ line) (depth : Nat) :
    ∀ line ∈ arrange depth ls, '\n' ∉ line ∧ line.getLast? ≠ some '\r' := by
  induction ls generalizing depth with
  | nil => simp [arrange]
  | cons line ls ih =>
      rw [arrange, List.forall_mem_cons]
      refine ⟨indented_plain (trimmed line List.mem_cons_self) (plain line List.mem_cons_self) _, ?_⟩
      exact ih (fun other member => trimmed other (List.mem_cons_of_mem line member))
        (fun other member => plain other (List.mem_cons_of_mem line member)) _

theorem trimmed_of_mem_trimmedLines {s line : Text} (member : line ∈ trimmedLines s) :
    Trimmed line ∧ '\n' ∉ line := by
  obtain ⟨whole, inside, rfl⟩ := List.mem_map.mp member
  exact ⟨trimmed_trim whole, fun found => not_mem_of_mem_lines inside (mem_of_mem_trim found)⟩

theorem format_eq_ok_iff {s new : Text} :
    format s = .ok new ↔ openBlocks s = 0 ∧ new = joinLines (arrange 0 (trimmedLines s)) := by
  rw [format_eq]
  split <;> simp_all [eq_comm]

theorem format_eq_error_iff {s : Text} {fault : Unclosed} :
    format s = .error fault ↔ openBlocks s ≠ 0 ∧ fault = ⟨openBlocks s⟩ := by
  rw [format_eq]
  split <;> simp_all [eq_comm]

theorem plain_of_mem_arrange {depth : Nat} {s line : Text}
    (member : line ∈ arrange depth (trimmedLines s)) :
    '\n' ∉ line ∧ line.getLast? ≠ some '\r' :=
  arrange_plain (fun _ inside => (trimmed_of_mem_trimmedLines inside).1)
    (fun _ inside => (trimmed_of_mem_trimmedLines inside).2) depth line member

theorem trimmedLines_ne_nil (s : Text) : trimmedLines s ≠ [] := by
  simp [trimmedLines, lines_ne_nil]

theorem arrange_ne_nil {ls : List Text} (depth : Nat) (some_line : ls ≠ []) :
    arrange depth ls ≠ [] := by
  obtain ⟨line, more, rfl⟩ := List.exists_cons_of_ne_nil some_line
  simp [arrange]

theorem lines_arranged (s : Text) :
    lines (joinLines (arrange 0 (trimmedLines s))) = arrange 0 (trimmedLines s) :=
  lines_joinLines (arrange_ne_nil 0 (trimmedLines_ne_nil s)) fun _ => plain_of_mem_arrange

theorem trimmedLines_of_format {s new : Text} (laid : format s = .ok new) :
    trimmedLines new = trimmedLines s := by
  obtain ⟨-, rfl⟩ := format_eq_ok_iff.mp laid
  rw [trimmedLines, lines_arranged,
    map_trim_arrange fun line member => (trimmed_of_mem_trimmedLines member).1]

/-- Laying out a layout changes nothing. -/
theorem format_format {s new : Text} (laid : format s = .ok new) : format new = .ok new := by
  have same := trimmedLines_of_format laid
  obtain ⟨closed, arranged⟩ := format_eq_ok_iff.mp laid
  rw [format_eq_ok_iff, openBlocks, same]
  exact ⟨closed, arranged⟩

end Layout
end Tron
