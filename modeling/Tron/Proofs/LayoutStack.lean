import Tron.Layout

/-! # Open blocks as levels

The blanks of the open blocks are determined by how many blocks are open: those of a
block that stands `n` deep are `n` indent units. So a layout is made by counting the
open blocks, and which blanks each of them has need not be remembered.
-/

namespace Tron
namespace Layout

/-- The blank characters of so many levels. -/
def indentation : (depth : Nat) → Text
  | 0 => []
  | depth + 1 => indentUnit ++ indentation depth

/-- The number of open blocks after a line, from the number before it. -/
def depthAfter (depth : Nat) (line : Text) : Nat :=
  if opensBlock line then depth + 1
  else if closesBlock line then depth - 1
  else depth

/-- A line at a level. A line without text gets no blanks either. -/
def indented (depth : Nat) (line : Text) : Text :=
  if line.isEmpty then [] else indentation depth ++ line

/-- The lines of a document with the indentation each is due, from the number of
    blocks open before the first. A brace stands one level out from its block. -/
def arrange : (depth : Nat) → List Text → List Text
  | _, [] => []
  | depth, line :: lines =>
    let after := depthAfter depth line
    indented (min depth after) line :: arrange after lines

def openBlocks (s : Text) : Nat := (trimmedLines s).foldl depthAfter 0

/-- The blanks of so many open blocks, the innermost one first. -/
def openLevels : (depth : Nat) → List Text
  | 0 => []
  | depth + 1 => indentation (depth + 1) :: openLevels depth

theorem indentation_append_indentUnit (depth : Nat) :
    indentation depth ++ indentUnit = indentation (depth + 1) := by
  induction depth with
  | zero => rfl
  | succ depth ih => rw [indentation, List.append_assoc, ih]; rfl

theorem innermost_openLevels (depth : Nat) : innermost (openLevels depth) = indentation depth := by
  cases depth <;> rfl

theorem tail_openLevels (depth : Nat) : (openLevels depth).tail = openLevels (depth - 1) := by
  cases depth <;> rfl

theorem length_openLevels (depth : Nat) : (openLevels depth).length = depth := by
  induction depth with
  | zero => rfl
  | succ depth ih => rw [openLevels, List.length_cons, ih]

/-- If the open blocks are so many levels before a line, they are so behind it, and the
    line stands at the lower one of the two depths. -/
theorem layLine_openLevels (depth : Nat) (line : Text) :
    layLine (openLevels depth) line =
      (indented (min depth (depthAfter depth line)) line, openLevels (depthAfter depth line)) := by
  cases empty : line.isEmpty with
  | true =>
      obtain rfl := List.isEmpty_iff.mp empty
      rfl
  | false =>
      cases opens : opensBlock line with
      | true =>
          have after : depthAfter depth line = depth + 1 := by simp [depthAfter, opens]
          simp [layLine, indented, empty, opens, after, openLevels, innermost_openLevels,
            indentation_append_indentUnit]
      | false =>
          cases closes : closesBlock line with
          | true =>
              have after : depthAfter depth line = depth - 1 := by simp [depthAfter, opens, closes]
              simp [layLine, indented, empty, opens, closes, after, tail_openLevels,
                innermost_openLevels]
          | false =>
              have after : depthAfter depth line = depth := by simp [depthAfter, opens, closes]
              simp [layLine, indented, empty, opens, closes, after, innermost_openLevels]

/-- The blanks that are remembered for the open blocks are at all times those of their
    levels, so the loop arranges the lines by counting. -/
theorem layLines_openLevels (depth : Nat) (ls : List Text) :
    layLines (openLevels depth) ls = (arrange depth ls, openLevels (ls.foldl depthAfter depth)) := by
  induction ls generalizing depth with
  | nil => rfl
  | cons line ls ih => simp only [layLines, layLine_openLevels, ih, arrange, List.foldl_cons]

/-- A layout depends on the open blocks through their number alone. -/
theorem format_eq (s : Text) : format s =
    if openBlocks s = 0 then .ok (Text.joinLines (arrange 0 (trimmedLines s)))
    else .error ⟨openBlocks s⟩ := by
  have run : layLines [] (trimmedLines s) =
      (arrange 0 (trimmedLines s), openLevels (openBlocks s)) :=
    layLines_openLevels 0 (trimmedLines s)
  rw [format, run]
  cases count : openBlocks s with
  | zero => rfl
  | succ depth =>
      have blocks := length_openLevels (depth + 1)
      rw [openLevels] at blocks ⊢
      simp [blocks]

end Layout
end Tron
