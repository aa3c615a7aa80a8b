import Mathlib.Data.List.Infix
import Tron.Proofs.LayoutDepth
import Tron.Proofs.LayoutMargins

/-! # Layouts made of layouts

The layout of one text after another is the one layout after the other, since a text
with a layout leaves no block open. The layout of a text within a block is the layout of
the text, one level further in. This holds only if the text closes no block that it has
not opened: by itself it closes nothing there, and in a block it closes the block.
-/

namespace Tron

namespace Layout

open Text

variable {depth : Nat} {line : Text} {ls : List Text}

/-- The seam is a line break, and may take a `\r` that the first text ends with. -/
theorem trimmedLines_append (a b : Text) :
    trimmedLines (a ++ '\n' :: b) = trimmedLines a ++ trimmedLines b := by
  obtain ⟨plain, -⟩ | ⟨line, lineBreak, rest, isBreak, plain, split, -⟩ := lines_cases a
  · have seam : trimmedLines (a ++ '\n' :: b) = trim a :: trimmedLines b :=
      trimmedLines_append_break plain (Or.inl rfl) b
    rw [seam, trimmedLines_of_not_mem plain]
    rfl
  · have shorter : rest.length < a.length := split ▸ isBreak.length_lt line rest
    rw [split, List.append_assoc, List.append_assoc, trimmedLines_append_break plain isBreak,
      trimmedLines_append_break plain isBreak, trimmedLines_append rest b, List.cons_append]
termination_by a.length

theorem arrange_append (depth : Nat) (ls ms : List Text) :
    arrange depth (ls ++ ms) = arrange depth ls ++ arrange (ls.foldl depthAfter depth) ms := by
  induction ls generalizing depth with
  | nil => rfl
  | cons line ls ih => simp only [List.cons_append, arrange, ih, List.foldl_cons]

/-- A line one level further in. -/
def nested (line : Text) : Text := if line = [] then [] else indentUnit ++ line

theorem nested_indented (depth : Nat) (line : Text) :
    nested (indented depth line) = indented (depth + 1) line := by
  cases line with
  | nil => rfl
  | cons c line => simp [nested, indented, indentation]

/-- No line closes a block when none is open, if so many are open before the lines. -/
def Sheltered (depth : Nat) (ls : List Text) : Prop :=
  ∀ front, front <+: ls → 0 ≤ depth + rise front

/-- One more open block stays open over a line, and the lines behind it are sheltered
    by what is open there. -/
theorem Sheltered.cons (sheltered : Sheltered depth (line :: ls)) :
    depthAfter (depth + 1) line = depthAfter depth line + 1 ∧
      Sheltered (depthAfter depth line) ls := by
  have counts : ∀ front, front <+: ls → 0 ≤ depth + (balance line + rise front) :=
    fun front starts => sheltered (line :: front) (List.cons_prefix_cons.mpr ⟨rfl, starts⟩)
  have first : 0 ≤ depth + balance line := by simpa [rise] using counts [] List.nil_prefix
  have here := cast_depthAfter depth line
  have deeper := cast_depthAfter (depth + 1) line
  constructor
  · omega
  · intro front starts
    have bound := counts front starts
    omega

theorem foldl_depthAfter_succ (sheltered : Sheltered depth ls) :
    ls.foldl depthAfter (depth + 1) = ls.foldl depthAfter depth + 1 := by
  induction ls generalizing depth with
  | nil => rfl
  | cons line ls ih =>
      obtain ⟨here, later⟩ := sheltered.cons
      rw [List.foldl_cons, List.foldl_cons, here, ih later]

/-- Sheltered lines within one more block stand one level further in. -/
theorem arrange_succ (sheltered : Sheltered depth ls) :
    arrange (depth + 1) ls = (arrange depth ls).map nested := by
  induction ls generalizing depth with
  | nil => rfl
  | cons line ls ih =>
      obtain ⟨here, later⟩ := sheltered.cons
      rw [arrange, arrange, List.map_cons, nested_indented, here, ih later, ← Nat.add_min_add_right]

theorem splitOn_of_format {s new : Text} (laid : format s = .ok new) :
    new.splitOn '\n' = arrange 0 (trimmedLines s) := by
  obtain ⟨-, rfl⟩ := format_eq_ok_iff.mp laid
  rw [joinLines_eq_intercalate]
  exact List.splitOn_intercalate '\n' (fun line member => (plain_of_mem_arrange member).1)
    (arrange_ne_nil 0 (trimmedLines_ne_nil s))

theorem indented_zero (line : Text) : indented 0 line = line := by
  cases line <;> rfl

/-- A text with a layout leaves no block open, so a further text starts anew. -/
theorem format_append {a new : Text} (laid : format a = .ok new) (b : Text) :
    format (a ++ '\n' :: b) = (format b).map fun rest => new ++ '\n' :: rest := by
  obtain ⟨closed, rfl⟩ := format_eq_ok_iff.mp laid
  rw [openBlocks] at closed
  have same : openBlocks (a ++ '\n' :: b) = openBlocks b := by
    rw [openBlocks, trimmedLines_append, List.foldl_append, closed, openBlocks]
  have joined : joinLines (arrange 0 (trimmedLines (a ++ '\n' :: b))) =
      joinLines (arrange 0 (trimmedLines a)) ++
        '\n' :: joinLines (arrange 0 (trimmedLines b)) := by
    rw [trimmedLines_append, arrange_append, closed]
    exact joinLines_append (arrange_ne_nil 0 (trimmedLines_ne_nil a))
      (arrange_ne_nil 0 (trimmedLines_ne_nil b))
  rw [format_eq, format_eq, same, joined]
  split <;> rfl

section Block

variable {header b new : Text}

theorem trimmedLines_block (plain : '\n' ∉ header) (b : Text) :
    trimmedLines (header ++ '\n' :: (b ++ ['\n', '}'])) =
      trim header :: (trimmedLines b ++ [['}']]) := by
  have brace : trimmedLines ['}'] = [['}']] := rfl
  rw [trimmedLines_append, trimmedLines_of_not_mem plain, trimmedLines_append, brace]
  rfl

/-- A text that has a layout and closes only its own blocks is laid out one level further
    in when it is the body of a block. -/
theorem format_block (plain : '\n' ∉ header) (opens : opensBlock (trim header) = true)
    (laid : format b = .ok new) (sheltered : Sheltered 0 (trimmedLines b)) :
    format (header ++ '\n' :: (b ++ ['\n', '}'])) =
      .ok (trim header ++ '\n' ::
        (['\n'].intercalate ((new.splitOn '\n').map nested) ++ ['\n', '}'])) := by
  have closed : (trimmedLines b).foldl depthAfter 0 = 0 := (format_eq_ok_iff.mp laid).1
  have entered : depthAfter 0 (trim header) = 1 := by
    rw [depthAfter, if_pos opens]
  have inside : (trimmedLines b).foldl depthAfter 1 = 1 := by
    rw [foldl_depthAfter_succ sheltered, closed]
  have body : arrange 1 (trimmedLines b) = (new.splitOn '\n').map nested := by
    rw [arrange_succ sheltered, splitOn_of_format laid]
  have some_line : (new.splitOn '\n').map nested ≠ [] := by
    rw [← body]
    exact arrange_ne_nil 1 (trimmedLines_ne_nil b)
  rw [format_eq_ok_iff, openBlocks, trimmedLines_block plain]
  constructor
  · rw [List.foldl_cons, entered, List.foldl_append, inside]
    rfl
  · calc trim header ++ '\n' ::
          (['\n'].intercalate ((new.splitOn '\n').map nested) ++ ['\n', '}'])
        = joinLines ([trim header] ++ ((new.splitOn '\n').map nested ++ [['}']])) := by
          rw [joinLines_append (by simp) (by simp), joinLines_append some_line (by simp),
            joinLines_eq_intercalate ((new.splitOn '\n').map nested)]
          rfl
      _ = joinLines (arrange 0 (trim header :: (trimmedLines b ++ [['}']]))) := by
          rw [arrange, entered, arrange_append, inside, body, Nat.zero_min, indented_zero]
          rfl

end Block

/-- A text with a layout and another text have the one layout after the other, or no
    layout because the second has none. A text that has a layout and closes only its own
    blocks has that layout, one level further in, between the header and the brace of a
    block. -/
theorem format_sequence_and_block :
    (∀ a b new, format a = .ok new →
      format (a ++ '\n' :: b) = (format b).map fun rest => new ++ '\n' :: rest) ∧
    (∀ header b new, '\n' ∉ header → opensBlock (trim header) = true → format b = .ok new →
      (∀ front, front <+: trimmedLines b →
        front.countP closesBlock ≤ front.countP opensBlock) →
      format (header ++ '\n' :: (b ++ ['\n', '}'])) =
        .ok (trim header ++ '\n' ::
          (['\n'].intercalate ((new.splitOn '\n').map nested) ++ ['\n', '}']))) := by
  constructor
  · intro a b new laid
    exact format_append laid b
  · intro header b new plain opens laid enough
    refine format_block plain opens laid fun front starts => ?_
    have bound := enough front starts
    rw [rise_eq_countP]
    omega

/-- At the seams a `\r` joins the line break, and in the block stand a block and a line
    without text. -/
theorem format_sequence_and_block_torn :
    format "a\x7b\n\x7d\r\n b\n".toList = .ok "a\x7b\n\x7d\nb\n".toList ∧
    format "a\x7b\n\x7d\r\nb\x7b".toList = .error ⟨1⟩ ∧
    format " h \x7b\r\nf\x7b\n x\n\x7d\n\r\n\x7d".toList =
      .ok "h \x7b\n    f\x7b\n        x\n    \x7d\n\n\x7d".toList := by
  obtain ⟨sequence, block⟩ := format_sequence_and_block
  have laid : format "a\x7b\n\x7d\r".toList = .ok "a\x7b\n\x7d".toList := rfl
  have body : format "f\x7b\n x\n\x7d\n\r".toList = .ok "f\x7b\n    x\n\x7d\n".toList := rfl
  have enough : ∀ front ∈ (trimmedLines "f\x7b\n x\n\x7d\n\r".toList).inits,
      front.countP closesBlock ≤ front.countP opensBlock := by
    decide
  refine ⟨sequence _ " b\n".toList _ laid, sequence _ "b\x7b".toList _ laid, ?_⟩
  exact block " h \x7b\r".toList _ _ (by decide) (by decide) body fun front starts =>
    enough front ((List.mem_inits _ _).mpr starts)

end Layout
end Tron
