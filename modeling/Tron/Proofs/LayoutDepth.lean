import Mathlib.Algebra.Order.Group.Finset
import Tron.Proofs.LayoutNormal

/-! # The depth of a line

The number of open blocks after a line is the most by which openings outweigh closings
in a run of lines that ends there. A closing brace with no block to close is lost, and
pays for no block that is opened later: the runs that count start behind it.
-/

namespace Tron
namespace Layout

open Text

/-- What a line adds to the blocks that are open, a closing brace always taking one. -/
def balance (line : Text) : Int :=
  if opensBlock line then 1 else if closesBlock line then -1 else 0

/-- By how much a run of lines opens more blocks than it closes. -/
def rise : List Text → Int
  | [] => 0
  | line :: run => balance line + rise run

/-- The highest rise of a run of lines that ends after the first `i` ones. The run
    without lines is one of them. -/
def highestRise (ls : List Text) (i : Nat) : Int :=
  (Finset.range (i + 1)).sup' Finset.nonempty_range_add_one fun j => rise ((ls.take i).drop j)

theorem rise_append_singleton (run : List Text) (line : Text) :
    rise (run ++ [line]) = rise run + balance line := by
  induction run with
  | nil => simp [rise]
  | cons first run ih => rw [List.cons_append, rise, ih, rise, Int.add_assoc]

/-- The run that ends after so many lines and starts there has no lines. -/
theorem rise_drop_take (ls : List Text) (i : Nat) : rise ((ls.take i).drop i) = 0 := by
  rw [List.drop_eq_nil_of_le (List.length_take_le i ls)]
  rfl

theorem closesBlock_of_opensBlock {line : Text} (opens : opensBlock line = true) :
    closesBlock line = false := by
  cases closes : closesBlock line with
  | false => rfl
  | true =>
      obtain rfl : line = ['}'] := by simpa [closesBlock] using closes
      exact absurd opens (by decide)

theorem rise_eq_countP (run : List Text) :
    rise run = (run.countP opensBlock : Int) - run.countP closesBlock := by
  induction run with
  | nil => rfl
  | cons line run ih =>
      rw [rise, ih, List.countP_cons, List.countP_cons, balance]
      cases opens : opensBlock line with
      | true =>
          simp only [closesBlock_of_opensBlock opens, if_true, Bool.false_eq_true, if_false]
          omega
      | false =>
          cases closes : closesBlock line <;>
            simp only [if_true, Bool.false_eq_true, if_false] <;> omega

theorem cast_depthAfter (depth : Nat) (line : Text) :
    (depthAfter depth line : Int) = max 0 (depth + balance line) := by
  unfold depthAfter balance
  split
  · omega
  · split <;> omega

theorem highestRise_zero (ls : List Text) : highestRise ls 0 = 0 := by
  simp [highestRise, rise]

/-- A run that ends with a further line is empty, or a run up to it and that line. -/
theorem highestRise_succ {ls : List Text} {i : Nat} (inside : i < ls.length) :
    highestRise ls (i + 1) = max 0 (highestRise ls i + balance ls[i]) := by
  have longer : ∀ j ∈ Finset.range (i + 1),
      rise ((ls.take (i + 1)).drop j) = rise ((ls.take i).drop j) + balance ls[i] := by
    intro j member
    have short : j ≤ (ls.take i).length := by
      have bound := Finset.mem_range.mp member
      rw [List.length_take]
      omega
    rw [List.take_succ_eq_append_getElem inside, List.drop_append_of_le_length short,
      rise_append_singleton]
  unfold highestRise
  rw [Finset.sup'_add, ← Finset.sup'_congr Finset.nonempty_range_add_one rfl longer]
  simp only [Finset.range_add_one (n := i + 1)]
  rw [Finset.sup'_insert, rise_drop_take]

/-- The open blocks after so many lines are the highest rise of a run that ends there. -/
theorem foldl_depthAfter_eq_highestRise {ls : List Text} {i : Nat} (inside : i ≤ ls.length) :
    ((ls.take i).foldl depthAfter 0 : Nat) = highestRise ls i := by
  induction i with
  | zero => rw [highestRise_zero]; rfl
  | succ i ih =>
      rw [highestRise_succ inside, ← ih (by omega), List.take_succ_eq_append_getElem inside,
        List.foldl_append, List.foldl_cons, List.foldl_nil, cast_depthAfter]

theorem highestRise_nonneg (ls : List Text) (i : Nat) : 0 ≤ highestRise ls i := by
  have last : i ∈ Finset.range (i + 1) := Finset.self_mem_range_succ i
  rw [← rise_drop_take ls i]
  exact Finset.le_sup' (fun j => rise ((ls.take i).drop j)) last

/-- The highest rise up to the end is that of some last lines of all. -/
theorem highestRise_pos_iff (ls : List Text) : 0 < highestRise ls ls.length ↔
    ∃ run, run <:+ ls ∧ run.countP closesBlock < run.countP opensBlock := by
  unfold highestRise
  rw [Finset.lt_sup'_iff]
  simp only [List.take_length, rise_eq_countP]
  constructor
  · intro found
    obtain ⟨j, -, positive⟩ := found
    exact ⟨ls.drop j, List.drop_suffix j ls, by omega⟩
  · intro found
    obtain ⟨run, ends, more⟩ := found
    have split := List.suffix_iff_eq_drop.mp ends
    refine ⟨ls.length - run.length, Finset.mem_range.mpr (by omega), ?_⟩
    rw [← split]
    omega

theorem indentation_eq_replicate (depth : Nat) :
    indentation depth = List.replicate (4 * depth) ' ' := by
  induction depth with
  | zero => rfl
  | succ depth ih =>
      rw [indentation, ih, Nat.mul_succ, Nat.add_comm, List.replicate_add]
      rfl

/-- Each line stands at the lower one of the depths before and after it. -/
theorem arrange_eq_mapIdx (depth : Nat) (ls : List Text) :
    arrange depth ls = ls.mapIdx fun i line =>
      indented (min ((ls.take i).foldl depthAfter depth)
        ((ls.take (i + 1)).foldl depthAfter depth)) line := by
  induction ls generalizing depth with
  | nil => rfl
  | cons line ls ih =>
      rw [arrange, ih, List.mapIdx_cons]
      rfl

theorem openBlocks_eq_highestRise (s : Text) :
    (openBlocks s : Int) = highestRise (trimmedLines s) (trimmedLines s).length := by
  have all := foldl_depthAfter_eq_highestRise (le_refl (trimmedLines s).length)
  rwa [List.take_length] at all

theorem arrange_eq_of_highestRise (ls : List Text) :
    arrange 0 ls = ls.mapIdx fun i line =>
      if line = [] then []
      else List.replicate (4 * (min (highestRise ls i) (highestRise ls (i + 1))).toNat) ' ' ++
        line := by
  rw [arrange_eq_mapIdx, List.mapIdx_eq_mapIdx_iff]
  intro i inside
  have before : ((ls.take i).foldl depthAfter 0 : Nat) = highestRise ls i :=
    foldl_depthAfter_eq_highestRise inside.le
  have after : ((ls.take (i + 1)).foldl depthAfter 0 : Nat) = highestRise ls (i + 1) :=
    foldl_depthAfter_eq_highestRise inside
  have depth : min ((ls.take i).foldl depthAfter 0) ((ls.take (i + 1)).foldl depthAfter 0) =
      (min (highestRise ls i) (highestRise ls (i + 1))).toNat := by
    omega
  rw [depth, indented, indentation_eq_replicate]
  simp only [List.isEmpty_iff]

/-- A text has no layout exactly if some of its last lines open more blocks than they
    close, and then as many blocks are open as the highest rise of its last lines says.
    Else each line stands four blanks deep for each level of the lower one of the highest
    rises before and after it, a line without text stays empty, and there is a `\n`
    between any two lines and nowhere else. -/
theorem format_eq_of_rise (s : Text) :
    let ls := trimmedLines s
    let D := highestRise ls
    (0 < D ls.length ↔ ∃ run, run <:+ ls ∧ run.countP closesBlock < run.countP opensBlock) ∧
    (∀ i, 0 ≤ D i) ∧
    format s =
      if 0 < D ls.length then .error ⟨(D ls.length).toNat⟩
      else .ok (['\n'].intercalate (ls.mapIdx fun i line =>
        if line = [] then []
        else List.replicate (4 * (min (D i) (D (i + 1))).toNat) ' ' ++ line)) := by
  intro ls D
  refine ⟨highestRise_pos_iff ls, highestRise_nonneg ls, ?_⟩
  have total : (openBlocks s : Int) = D ls.length := openBlocks_eq_highestRise s
  rw [format_eq]
  by_cases inside : 0 < D ls.length
  · rw [if_neg (by omega), if_pos inside, ← total, Int.toNat_natCast]
  · rw [if_pos (by omega), if_neg inside, arrange_eq_of_highestRise, joinLines_eq_intercalate]

/-- A surplus brace, a block within a block, a block that is opened behind a brace, lines
    that hold blanks only, and lines with blanks around, ended by `\r\n` or `\n`. -/
def padded : Text :=
  ("\x7d \r\nfn f \x7b\r\n \t\n\tif a \x7b  \nx \r\n\x7d else \x7b\n  y\n\x7d\r\n" ++
    "  \x7d\n\r\nz \x7d \n\t\x7d").toList

def paddedLaid : Text :=
  ("\x7d\nfn f \x7b\n\n    if a \x7b\n        x\n        \x7d else \x7b\n            y\n" ++
    "        \x7d\n    \x7d\n\n    z \x7d\n\x7d").toList

/-- The first brace of either text closes nothing, and does not pay for the block that
    follows. -/
theorem format_eq_of_rise_padded :
    format padded = .ok paddedLaid ∧ format ['}', '\n', 'f', '{'] = .error ⟨1⟩ := by
  obtain ⟨-, -, laid⟩ := format_eq_of_rise padded
  obtain ⟨-, -, refused⟩ := format_eq_of_rise ['}', '\n', 'f', '{']
  exact ⟨laid.trans (by decide +kernel), refused.trans (by decide +kernel)⟩

end Layout
end Tron
