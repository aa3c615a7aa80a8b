import Tron.Text.Basic

/-! # Occurrences

A reader takes a form off the front of a text and gives it with what is left.
The occurrences of its form in a text are found from left to right: the first
offset at which the reader succeeds, then the first one at or after the end of
that form, and so on. Occurrences do not overlap.
-/

namespace Tron

/-- Takes a form off the front of a text, leaving the rest of the text. -/
abbrev Reader (φ : Type) := Text → Option (φ × Text)

structure Occurrence (φ : Type) where
  start : Nat
  form : φ
  deriving Repr, DecidableEq

namespace Reader

/-- The occurrences in a text that starts at `offset` and whose first `skip`
    characters belong to an occurrence already found. -/
def occurrencesFrom {φ : Type} (read : Reader φ) :
    (offset skip : Nat) → Text → List (Occurrence φ)
  | _, _, [] => []
  | offset, skip + 1, _ :: rest => occurrencesFrom read (offset + 1) skip rest
  | offset, 0, c :: rest =>
    match read (c :: rest) with
    | none => occurrencesFrom read (offset + 1) 0 rest
    | some (form, left) =>
      ⟨offset, form⟩ :: occurrencesFrom read (offset + 1) (rest.length - left.length) rest

def occurrences {φ : Type} (read : Reader φ) (s : Text) : List (Occurrence φ) :=
  occurrencesFrom read 0 0 s

/-- Characters to skip may be dropped. -/
theorem occurrencesFrom_skip {φ : Type} (read : Reader φ) (offset skip : Nat) (s : Text) :
    occurrencesFrom read offset skip s =
      occurrencesFrom read (offset + skip) 0 (s.drop skip) := by
  induction s generalizing offset skip with
  | nil => simp [occurrencesFrom]
  | cons c rest ih =>
    cases skip with
    | zero => rfl
    | succ skip =>
      simp only [occurrencesFrom, List.drop_succ_cons]
      rw [ih, Nat.add_right_comm, Nat.add_assoc]

end Reader

end Tron
