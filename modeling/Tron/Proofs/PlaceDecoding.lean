import Tron.Position

/-! # Places read back

The place where a stretch of text ends is read back, in the whole document, as
the offset of that end. The one exception is an end between the `\r` and the
`\n` of a line break, where the stretch has a line break that the document has
not.
-/

namespace Tron

namespace Text

theorem documentLines_cons_return {s : Text} (alone : ∀ more, s ≠ '\n' :: more) :
    documentLines ('\r' :: s) = [] :: documentLines s :=
  documentLines.eq_4 s alone

theorem documentLines_cons_of_plain {c : Char} (plain : c ≠ '\n' ∧ c ≠ '\r') (s : Text) :
    documentLines (c :: s) = consLine c (documentLines s) :=
  documentLines.eq_5 c s (fun _ same _ => plain.2 same) plain.1 plain.2

/-- A text followed by another one is not cut inside a line break. -/
def CutsCleanly (front rest : Text) : Prop :=
  ¬ (front.getLast? = some '\r' ∧ rest.head? = some '\n')

theorem CutsCleanly.tail {c : Char} {front rest : Text}
    (clean : CutsCleanly (c :: front) rest) : CutsCleanly front rest := by
  rintro ⟨last, next⟩
  refine clean ⟨?_, next⟩
  rw [List.getLast?_cons, last, Option.getD_some]

/-- A `\r` that is a line break before a clean cut is one in the whole text. -/
theorem CutsCleanly.not_newline {s rest : Text} (clean : CutsCleanly ('\r' :: s) rest)
    (alone : ∀ more, s ≠ '\n' :: more) : ∀ more, s ++ rest ≠ '\n' :: more := by
  intro more joined
  cases s with
  | nil => exact clean ⟨rfl, by simpa using congrArg List.head? joined⟩
  | cons c s => exact alone s (by simpa using (List.cons.inj joined).1)

end Text

namespace Position

open Text

/-- The columns of a line are its characters, each as wide as its code units. -/
theorem charactersTo?_units {line : Text} (no_break : ∀ c ∈ line, c ≠ '\n' ∧ c ≠ '\r')
    (rest : Text) : charactersTo? (line ++ rest) (units line) = some line.length := by
  induction line with
  | nil => cases rest <;> rfl
  | cons c line ih =>
      obtain ⟨not_newline, not_return⟩ := no_break c List.mem_cons_self
      have along := ih fun d member => no_break d (List.mem_cons_of_mem c member)
      obtain ⟨width, wide⟩ : ∃ n, codeUnits c = n + 1 := by
        unfold codeUnits
        split <;> exact ⟨_, rfl⟩
      have total : units (c :: line) = (width + units line) + 1 := by
        rw [units, wide]
        omega
      have left : width + units line + 1 - (width + 1) = units line := by omega
      have reached : ¬ width + units line + 1 < width + 1 := by omega
      simp [total, charactersTo?, wide, left, reached, not_newline, not_return, along]

/-- The last line of a text, as a line of the document that the text starts. -/
structure LastLine (s rest front last : Text) : Prop where
  split : s = front ++ last
  no_break : ∀ c ∈ last, c ≠ '\n' ∧ c ≠ '\r'
  is_last : (documentLines s).getLastD [] = last
  starts : lineStart? (s ++ rest) ((documentLines s).length - 1) = some front.length

namespace LastLine

variable {s rest front last : Text}

/-- A line break in front moves the last line down by one. -/
theorem below (found : LastLine s rest front last) (lineBreak : Text)
    (lines : documentLines (lineBreak ++ s) = [] :: documentLines s)
    (starts : ∀ line, lineStart? (lineBreak ++ (s ++ rest)) (line + 1) =
      (lineStart? (s ++ rest) line).map (· + lineBreak.length)) :
    LastLine (lineBreak ++ s) rest (lineBreak ++ front) last := by
  obtain ⟨line, more, nonempty⟩ := List.exists_cons_of_ne_nil (documentLines_ne_nil s)
  refine ⟨by simp [found.split], found.no_break, ?_, ?_⟩
  · rw [lines, ← found.is_last, nonempty]
    rfl
  · have here := found.starts
    rw [nonempty] at here
    rw [lines, nonempty, List.append_assoc]
    simp only [List.length_cons, Nat.add_sub_cancel] at here ⊢
    rw [starts, here, Option.map_some, List.length_append, Nat.add_comm]

/-- A plain character in front belongs to the last line if there is no other. -/
theorem beside (found : LastLine s rest front last) {c : Char} (plain : c ≠ '\n' ∧ c ≠ '\r') :
    ∃ front' last', LastLine (c :: s) rest front' last' := by
  have lines := documentLines_cons_of_plain plain s
  obtain ⟨line, more, nonempty⟩ := List.exists_cons_of_ne_nil (documentLines_ne_nil s)
  have here := found.starts
  have end_line := found.is_last
  rw [nonempty] at here end_line
  cases more with
  | nil =>
      have no_front : front = [] := by
        cases s <;> simpa [lineStart?, eq_comm] using here
      refine ⟨[], c :: last, by simp [found.split, no_front], ?_, ?_, ?_⟩
      · exact List.forall_mem_cons.mpr ⟨plain, found.no_break⟩
      · rw [lines, nonempty, ← end_line]
        rfl
      · rw [lines, nonempty]
        rfl
  | cons next more =>
      refine ⟨c :: front, last, by simp [found.split], found.no_break, ?_, ?_⟩
      · rw [lines, nonempty, ← end_line]
        rfl
      · simp only [List.length_cons, Nat.add_sub_cancel] at here
        simp [lines, nonempty, consLine, lineStart?, plain, here]

theorem exists_of_cutsCleanly (clean : CutsCleanly s rest) :
    ∃ front last, LastLine s rest front last := by
  fun_induction documentLines s with
  | case1 => exact ⟨[], [], rfl, by simp, rfl, by cases rest <;> rfl⟩
  | case2 s ih =>
      obtain ⟨front, last, found⟩ := ih clean.tail.tail
      exact ⟨_, _, found.below ['\r', '\n'] rfl fun _ => rfl⟩
  | case3 s ih =>
      obtain ⟨front, last, found⟩ := ih clean.tail
      exact ⟨_, _, found.below ['\n'] rfl fun _ => rfl⟩
  | case4 s no_newline ih =>
      obtain ⟨front, last, found⟩ := ih clean.tail
      refine ⟨_, _, found.below ['\r'] ?_ fun line => ?_⟩
      · exact documentLines_cons_return no_newline
      · exact lineStart?.eq_5 _ line (clean.not_newline no_newline)
  | case5 c s _ not_newline not_return ih =>
      obtain ⟨front, last, found⟩ := ih clean.tail
      exact found.beside ⟨not_newline, not_return⟩

end LastLine

/-- The end of a stretch of text is a place of the document that the stretch
    starts, and is read back as the length of the stretch. -/
theorem offset?_endOf {s rest : Text} (clean : CutsCleanly s rest) :
    (endOf s).offset? (s ++ rest) = some s.length := by
  obtain ⟨front, last, found⟩ := LastLine.exists_of_cutsCleanly clean
  have along : charactersTo? ((s ++ rest).drop front.length) (units last) = some last.length := by
    rw [found.split, List.append_assoc, List.drop_left]
    exact charactersTo?_units found.no_break rest
  have total : front.length + last.length = s.length := by
    rw [found.split, List.length_append]
  simp only [offset?, endOf, found.is_last]
  rw [found.starts]
  simp [along, total]

theorem offset?_endOf_self (s : Text) : (endOf s).offset? s = some s.length := by
  have clean : CutsCleanly s [] := by simp [CutsCleanly]
  simpa using offset?_endOf clean

end Position

end Tron
