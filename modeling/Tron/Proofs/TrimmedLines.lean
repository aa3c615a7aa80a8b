import Tron.Text.Blank
import Tron.Text.Lines

/-! # Lines and the blanks at their ends

Cutting a text into lines loses its line breaks and nothing else, and cutting
lines that were joined gives them back. Trimming loses blanks at the two ends
and nothing else.
-/

namespace Tron

theorem Blank.nil : Blank [] := by simp [Blank]

theorem Blank.append {w v : Text} (first : Blank w) (second : Blank v) : Blank (w ++ v) := by
  intro c member
  rcases List.mem_append.mp member with member | member
  · exact first c member
  · exact second c member

theorem Blank.cons {c : Char} {w : Text} (first : isBlank c = true) (rest : Blank w) :
    Blank (c :: w) :=
  List.forall_mem_cons.mpr ⟨first, rest⟩

theorem Blank.not_mem {w : Text} (blank : Blank w) {c : Char} (plain : isBlank c = false) :
    c ∉ w := by
  intro member
  simp [blank c member] at plain

theorem Blank.reverse {w : Text} (blank : Blank w) : Blank w.reverse :=
  fun c member => blank c (List.mem_reverse.mp member)

namespace Text

/-- A text does not start with a character of the kind. -/
def StopsAt (kind : Char → Bool) (s : Text) : Prop := ∀ c ∈ s.head?, kind c = false

namespace StopsAt

variable {kind : Char → Bool} {w s : Text} {c : Char}

theorem nil : StopsAt kind [] := by simp [StopsAt]

theorem cons (other : kind c = false) : StopsAt kind (c :: s) := by simpa [StopsAt] using other

theorem append (first : ∀ d ∈ w, kind d = false) (rest : StopsAt kind s) :
    StopsAt kind (w ++ s) := by
  cases w with
  | nil => exact rest
  | cons d w => exact cons (first d List.mem_cons_self)

end StopsAt

theorem stopsAt_dropWhile (kind : Char → Bool) (s : Text) :
    StopsAt kind (s.dropWhile kind) := by
  intro c first
  have stop := List.head?_dropWhile_not kind s
  rw [Option.mem_def] at first
  rwa [first] at stop

theorem dropWhile_append {kind : Char → Bool} {w s : Text} (inside : ∀ c ∈ w, kind c = true)
    (stops : StopsAt kind s) : (w ++ s).dropWhile kind = s := by
  rw [List.dropWhile_append_of_pos inside]
  cases s with
  | nil => rfl
  | cons c s => simp [stops c rfl]

theorem blanks_stopsAt (s : Text) : StopsAt isBlank (blanks s).2 :=
  stopsAt_dropWhile isBlank s

/-- A text with no blank at either end. -/
structure Trimmed (s : Text) : Prop where
  first : StopsAt isBlank s
  last : ∀ c ∈ s.getLast?, isBlank c = false

/-- Blanks around a trimmed text are what trimming takes off. -/
theorem trim_eq {w s v : Text} (before : Blank w) (after : Blank v) (trimmed : Trimmed s) :
    trim (w ++ (s ++ v)) = s := by
  cases s with
  | nil =>
      have empty : trimStart (w ++ ([] ++ v)) = [] := by
        have all := dropWhile_append (before.append after) StopsAt.nil
        simpa [trimStart] using all
      rw [trim, empty]
      rfl
  | cons c s =>
      have start : trimStart (w ++ (c :: s ++ v)) = c :: s ++ v :=
        dropWhile_append before (StopsAt.cons (trimmed.first c rfl))
      have last : ∀ d ∈ (c :: s).reverse.head?, isBlank d = false := by
        rw [List.head?_reverse]
        exact trimmed.last
      have stop : trimEnd (c :: s ++ v) = c :: s := by
        rw [trimEnd, List.reverse_append, dropWhile_append after.reverse last,
          List.reverse_reverse]
      rw [trim, start, stop]

theorem exists_trimmed (s : Text) :
    ∃ w core v, Blank w ∧ Blank v ∧ Trimmed core ∧ s = w ++ (core ++ v) := by
  obtain ⟨⟨w, rest⟩, front⟩ : ∃ cut, blanks s = cut := ⟨_, rfl⟩
  obtain ⟨⟨v, core⟩, back⟩ : ∃ cut, blanks rest.reverse = cut := ⟨_, rfl⟩
  have blank_front := front ▸ blank_blanks s
  have blank_back := back ▸ blank_blanks rest.reverse
  have split_front : w ++ rest = s := by simpa only [front] using blanks_append s
  have split_back : core.reverse ++ v.reverse = rest := by
    rw [← List.reverse_append, show v ++ core = rest.reverse by
      simpa only [back] using blanks_append rest.reverse, List.reverse_reverse]
  refine ⟨w, core.reverse, v.reverse, blank_front, Blank.reverse blank_back, ⟨?_, ?_⟩, ?_⟩
  · intro c member
    have first : StopsAt isBlank rest := by simpa only [front] using blanks_stopsAt s
    apply first c
    rw [← split_back, List.head?_append, member]
    rfl
  · have last : StopsAt isBlank core := by simpa only [back] using blanks_stopsAt rest.reverse
    rwa [List.getLast?_reverse]
  · rw [split_back, split_front]

theorem trimmed_trim (s : Text) : Trimmed (trim s) := by
  obtain ⟨w, core, v, before, after, trimmed, rfl⟩ := exists_trimmed s
  rwa [trim_eq before after trimmed]

/-- What trimming takes off is blank and at the ends. -/
theorem exists_eq_trim (s : Text) : ∃ w v, Blank w ∧ Blank v ∧ s = w ++ (trim s ++ v) := by
  obtain ⟨w, core, v, before, after, trimmed, rfl⟩ := exists_trimmed s
  exact ⟨w, v, before, after, by rw [trim_eq before after trimmed]⟩

/-- Further blanks at the ends do not change what trimming leaves. -/
theorem trim_append {w v : Text} (before : Blank w) (after : Blank v) (s : Text) :
    trim (w ++ (s ++ v)) = trim s := by
  obtain ⟨w', v', before', after', split⟩ := exists_eq_trim s
  have around : w ++ (s ++ v) = (w ++ w') ++ (trim s ++ (v' ++ v)) := by
    rw [split, trim_eq before' after' (trimmed_trim s)]
    simp only [List.append_assoc]
  rw [around, trim_eq (before.append before') (after'.append after) (trimmed_trim s)]

theorem mem_of_mem_trim {c : Char} {s : Text} (member : c ∈ trim s) : c ∈ s := by
  obtain ⟨w, v, -, -, split⟩ := exists_eq_trim s
  rw [split]
  simp [member]

def IsLineBreak (s : Text) : Prop := s = ['\n'] ∨ s = ['\r', '\n']

theorem IsLineBreak.blank {s : Text} (lineBreak : IsLineBreak s) : Blank s := by
  rcases lineBreak with rfl | rfl <;> decide

theorem IsLineBreak.length_lt {lineBreak : Text} (isBreak : IsLineBreak lineBreak)
    (line rest : Text) : rest.length < (line ++ (lineBreak ++ rest)).length := by
  have some_break : 0 < lineBreak.length := by
    cases isBreak with
    | inl single => simp [single]
    | inr pair => simp [pair]
  rw [List.length_append, List.length_append]
  omega

theorem lines_cons_of_plain {c : Char} (plain : c ≠ '\n') {s : Text}
    (alone : c = '\r' → s.head? ≠ some '\n') : lines (c :: s) = consLine c (lines s) :=
  lines.eq_4 c s (fun rest same next => alone same (by rw [next]; rfl)) plain

theorem lines_of_not_mem {s : Text} (plain : '\n' ∉ s) : lines s = [s] := by
  induction s with
  | nil => rfl
  | cons c s ih =>
      simp only [List.mem_cons, not_or] at plain
      have next : s.head? ≠ some '\n' := fun head => plain.2 (List.mem_of_mem_head? head)
      rw [lines_cons_of_plain (Ne.symm plain.1) fun _ => next, ih plain.2]
      rfl

/-- A line ends at the first line break, a `\r` before the `\n` belonging to it. -/
theorem lines_append_break {line lineBreak : Text} (plain : '\n' ∉ line)
    (isBreak : IsLineBreak lineBreak) (whole : lineBreak = ['\n'] → line.getLast? ≠ some '\r')
    (rest : Text) : lines (line ++ (lineBreak ++ rest)) = line :: lines rest := by
  induction line with
  | nil => rcases isBreak with rfl | rfl <;> simp [lines]
  | cons c line ih =>
      simp only [List.mem_cons, not_or] at plain
      have further : lineBreak = ['\n'] → line.getLast? ≠ some '\r' := by
        intro single last
        exact whole single (by rw [List.getLast?_cons, last, Option.getD_some])
      have alone : c = '\r' → (line ++ (lineBreak ++ rest)).head? ≠ some '\n' := by
        rintro rfl
        cases line with
        | nil =>
            rcases isBreak with rfl | rfl
            · exact absurd rfl (whole rfl)
            · simp
        | cons d line => exact fun first => plain.2 (by simp [Option.some.inj first])
      rw [List.cons_append, lines_cons_of_plain (Ne.symm plain.1) alone, ih plain.2 further]
      rfl

/-- A text is one line, or a line with a line break and further lines. -/
theorem lines_cases (s : Text) :
    ('\n' ∉ s ∧ lines s = [s]) ∨
      ∃ line lineBreak rest, IsLineBreak lineBreak ∧ '\n' ∉ line ∧
        s = line ++ (lineBreak ++ rest) ∧ lines s = line :: lines rest := by
  fun_induction lines s with
  | case1 => exact Or.inl ⟨by simp, rfl⟩
  | case2 rest _ => exact Or.inr ⟨[], _, rest, Or.inr rfl, by simp, rfl, rfl⟩
  | case3 rest _ => exact Or.inr ⟨[], _, rest, Or.inl rfl, by simp, rfl, rfl⟩
  | case4 c s _ plain ih =>
      have differs : '\n' ≠ c := fun same => plain same.symm
      rcases ih with ⟨single, cut⟩ | ⟨line, lineBreak, rest, isBreak, single, rfl, cut⟩
      · exact Or.inl ⟨by simp [differs, single], by rw [cut]; rfl⟩
      · refine Or.inr ⟨c :: line, lineBreak, rest, isBreak, by simp [differs, single], rfl, ?_⟩
        rw [cut]
        rfl

theorem not_mem_of_mem_lines {s line : Text} (member : line ∈ lines s) : '\n' ∉ line := by
  rcases lines_cases s with ⟨plain, cut⟩ | ⟨first, lineBreak, rest, isBreak, plain, split, cut⟩
  · rw [cut, List.mem_singleton] at member
    rwa [member]
  · rw [cut] at member
    rcases List.mem_cons.mp member with rfl | member
    · exact plain
    · have shorter : rest.length < s.length := split ▸ isBreak.length_lt first rest
      exact not_mem_of_mem_lines member
termination_by s.length

theorem joinLines_eq_intercalate (ls : List Text) : joinLines ls = ['\n'].intercalate ls := by
  fun_induction joinLines ls with
  | case1 => rfl
  | case2 line => simp
  | case3 line next ls ih => rw [ih, List.intercalate_cons_cons]; simp

theorem joinLines_append {ls ms : List Text} (some_line : ls ≠ []) (some_line' : ms ≠ []) :
    joinLines (ls ++ ms) = joinLines ls ++ '\n' :: joinLines ms := by
  fun_induction joinLines ls with
  | case1 => exact absurd rfl some_line
  | case2 line =>
      obtain ⟨next, more, rfl⟩ := List.exists_cons_of_ne_nil some_line'
      rfl
  | case3 line next ls ih =>
      have rest := ih (by simp)
      simp only [List.cons_append, joinLines, List.append_assoc] at rest ⊢
      rw [rest]

/-- Joined lines are cut where they were joined, unless one of them holds a `\n`
    or ends with a `\r` that would become part of a line break. -/
theorem lines_joinLines {ls : List Text} (some_line : ls ≠ [])
    (plain : ∀ line ∈ ls, '\n' ∉ line ∧ line.getLast? ≠ some '\r') :
    lines (joinLines ls) = ls := by
  fun_induction joinLines ls with
  | case1 => exact absurd rfl some_line
  | case2 line => exact lines_of_not_mem (plain line List.mem_cons_self).1
  | case3 line next ls ih =>
      obtain ⟨single, whole⟩ := plain line List.mem_cons_self
      rw [show '\n' :: joinLines (next :: ls) = ['\n'] ++ joinLines (next :: ls) from rfl,
        lines_append_break single (Or.inl rfl) fun _ => whole,
        ih (by simp) fun other member => plain other (List.mem_cons_of_mem line member)]

end Text

end Tron
