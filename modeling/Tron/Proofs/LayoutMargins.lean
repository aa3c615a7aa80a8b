import Tron.Proofs.LayoutNormal

/-! # Margins and line breaks

Blanks at the ends of a line and the kind of a line break leave no trace in the trimmed
lines. Texts that differ in nothing else have the same trimmed lines, and texts with
the same trimmed lines differ in nothing else. So a layout stands for all the texts that
can be made from it by changing margins and line breaks.
-/

namespace Tron

namespace Layout

open Text

theorem trimmedLines_of_not_mem {line : Text} (plain : '\n' ∉ line) :
    trimmedLines line = [trim line] := by
  rw [trimmedLines, lines_of_not_mem plain, List.map_singleton]

/-- A `\r` before a `\n` may belong to the line or to the line break. -/
theorem trimmedLines_append_break {line lineBreak : Text} (plain : '\n' ∉ line)
    (isBreak : IsLineBreak lineBreak) (rest : Text) :
    trimmedLines (line ++ (lineBreak ++ rest)) = trim line :: trimmedLines rest := by
  by_cases torn : lineBreak = ['\n'] ∧ line.getLast? = some '\r'
  · obtain ⟨rfl, last⟩ := torn
    obtain ⟨front, rfl⟩ := List.getLast?_eq_some_iff.mp last
    have single : '\n' ∉ front := fun member => plain (List.mem_append_left _ member)
    have cut : lines (front ++ (['\r', '\n'] ++ rest)) = front :: lines rest :=
      lines_append_break single (Or.inr rfl) (by simp) rest
    have same : trim (front ++ ['\r']) = trim front :=
      trim_append Blank.nil (Blank.cons (by decide) Blank.nil) front
    rw [List.append_assoc, same, trimmedLines, show ['\r'] ++ (['\n'] ++ rest) =
      ['\r', '\n'] ++ rest from rfl, cut, List.map_cons, trimmedLines]
  · have whole : lineBreak = ['\n'] → line.getLast? ≠ some '\r' :=
      fun single last => torn ⟨single, last⟩
    rw [trimmedLines, lines_append_break plain isBreak whole, List.map_cons, trimmedLines]

/-- Two lines that hold the same text between blanks. -/
structure SameLine (line line' : Text) : Prop where
  plain : '\n' ∉ line
  plain' : '\n' ∉ line'
  core : ∃ core w v w' v', Blank w ∧ Blank v ∧ Blank w' ∧ Blank v' ∧
    line = w ++ (core ++ v) ∧ line' = w' ++ (core ++ v')

theorem sameLine_iff {line line' : Text} :
    SameLine line line' ↔ '\n' ∉ line ∧ '\n' ∉ line' ∧ trim line = trim line' := by
  constructor
  · intro same
    obtain ⟨core, w, v, w', v', before, after, before', after', split, split'⟩ := same.core
    refine ⟨same.plain, same.plain', ?_⟩
    rw [split, split', trim_append before after, trim_append before' after']
  · intro same
    obtain ⟨plain, plain', equal⟩ := same
    obtain ⟨w, v, before, after, split⟩ := exists_eq_trim line
    obtain ⟨w', v', before', after', split'⟩ := exists_eq_trim line'
    rw [← equal] at split'
    exact ⟨plain, plain', trim line, w, v, w', v', before, after, before', after', split, split'⟩

/-- Texts that differ at most in the blanks at the ends of their lines and in the kinds
    of their line breaks. -/
inductive Remargined : Text → Text → Prop where
  | last {line line' : Text} : SameLine line line' → Remargined line line'
  | cons {line line' lineBreak lineBreak' s t : Text} : SameLine line line' →
      IsLineBreak lineBreak → IsLineBreak lineBreak' → Remargined s t →
      Remargined (line ++ (lineBreak ++ s)) (line' ++ (lineBreak' ++ t))

theorem Remargined.trimmedLines_eq {s t : Text} (same : Remargined s t) :
    trimmedLines s = trimmedLines t := by
  induction same with
  | last line =>
      obtain ⟨plain, plain', equal⟩ := sameLine_iff.mp line
      rw [trimmedLines_of_not_mem plain, trimmedLines_of_not_mem plain', equal]
  | cons line isBreak isBreak' _ ih =>
      obtain ⟨plain, plain', equal⟩ := sameLine_iff.mp line
      rw [trimmedLines_append_break plain isBreak, trimmedLines_append_break plain' isBreak',
        equal, ih]

theorem Remargined.of_trimmedLines_eq {s t : Text} (same : trimmedLines s = trimmedLines t) :
    Remargined s t := by
  obtain ⟨plain, -⟩ | ⟨line, lineBreak, rest, isBreak, plain, split, -⟩ := lines_cases s
  · rw [trimmedLines_of_not_mem plain] at same
    obtain ⟨plain', -⟩ | ⟨line', lineBreak', rest', isBreak', plain', rfl, -⟩ := lines_cases t
    · rw [trimmedLines_of_not_mem plain'] at same
      exact .last (sameLine_iff.mpr ⟨plain, plain', List.singleton_inj.mp same⟩)
    · rw [trimmedLines_append_break plain' isBreak'] at same
      exact absurd (List.cons.inj same).2.symm (trimmedLines_ne_nil rest')
  · have shorter : rest.length < s.length := split ▸ isBreak.length_lt line rest
    rw [split, trimmedLines_append_break plain isBreak] at same
    obtain ⟨plain', -⟩ | ⟨line', lineBreak', rest', isBreak', plain', rfl, -⟩ := lines_cases t
    · rw [trimmedLines_of_not_mem plain'] at same
      exact absurd (List.cons.inj same).2 (trimmedLines_ne_nil rest)
    · rw [trimmedLines_append_break plain' isBreak'] at same
      obtain ⟨first, others⟩ := List.cons.inj same
      rw [split]
      exact .cons (sameLine_iff.mpr ⟨plain, plain', first⟩) isBreak isBreak'
        (of_trimmedLines_eq others)
termination_by s.length

theorem format_congr {s t : Text} (same : trimmedLines s = trimmedLines t) :
    format s = format t := by
  rw [format, format, same]

/-- A layout is a normal form: it is the same for texts with the same trimmed lines,
    shows which these are, and is its own layout. Texts have the same trimmed lines
    exactly if they differ at most in margins and line breaks, so changing these never
    changes a layout. -/
theorem format_normal_form (x y : Text) :
    (trimmedLines x = trimmedLines y → format x = format y) ∧
    (∀ new, format x = .ok new → format y = .ok new → trimmedLines x = trimmedLines y) ∧
    (∀ new, format x = .ok new → format new = .ok new) ∧
    (Remargined x y ↔ trimmedLines x = trimmedLines y) := by
  refine ⟨format_congr, ?_, fun new => format_format,
    Remargined.trimmedLines_eq, Remargined.of_trimmedLines_eq⟩
  intro new laid laid'
  rw [← trimmedLines_of_format laid, trimmedLines_of_format laid']

/-- A surplus brace, a block that is left and entered on one line, and a lone `\r`. -/
def untidy : Text := "\x7d\r\nif \x7b\n\t \x7d else \x7b\r\r\n x\ry\n\x7d\n  \x7d ".toList

def untidyRemargined : Text := " \x7d\nif \x7b \r\n\x7d else \x7b\n\tx\ry\n\x7d\r\n\x7d".toList

def tidy : Text := "\x7d\nif \x7b\n    \x7d else \x7b\n        x\ry\n    \x7d\n\x7d".toList

theorem format_normal_form_untidy :
    format untidy = .ok tidy ∧ format untidyRemargined = .ok tidy ∧ format tidy = .ok tidy ∧
      Remargined untidy untidyRemargined := by
  have laid : format untidy = .ok tidy := format_eq_ok_iff.mpr ⟨by decide, by decide⟩
  have trimmed : trimmedLines untidy = trimmedLines untidyRemargined := by decide
  obtain ⟨alike, -, again, margins⟩ := format_normal_form untidy untidyRemargined
  exact ⟨laid, alike trimmed ▸ laid, again tidy laid, margins.mpr trimmed⟩

end Layout
end Tron
