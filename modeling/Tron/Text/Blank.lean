import Tron.Text.Basic

/-! # Blank characters

The characters that separate words: the Unicode white space together with the
four information separators `U+001C` to `U+001F`. The zero-width characters and
the byte order mark are not among them.
-/

namespace Tron

/-- Whether a character separates words. -/
def isBlank (c : Char) : Bool :=
  let n := c.toNat
  (0x09 ≤ n && n ≤ 0x0D) || (0x1C ≤ n && n ≤ 0x20) || n == 0x85 || n == 0xA0 ||
    n == 0x1680 || (0x2000 ≤ n && n ≤ 0x200A) || n == 0x2028 || n == 0x2029 ||
    n == 0x202F || n == 0x205F || n == 0x3000

/-- A text of blank characters alone, the empty text included. -/
def Blank (s : Text) : Prop := ∀ c ∈ s, isBlank c = true

instance (s : Text) : Decidable (Blank s) := List.decidableBAll (isBlank · = true) s

namespace Text

def trimStart (s : Text) : Text := s.dropWhile isBlank

def trimEnd (s : Text) : Text := (s.reverse.dropWhile isBlank).reverse

def trim (s : Text) : Text := s.trimStart.trimEnd

/-- The blank characters at the front, and the text after them. -/
def blanks (s : Text) : Text × Text := (s.takeWhile isBlank, s.dropWhile isBlank)

/-- The maximal runs of characters that are not blank, in order. -/
def words : Text → List Text
  | [] => []
  | c :: rest =>
    if isBlank c then words rest
    else
      match rest with
      | [] => [[c]]
      | d :: _ =>
        if isBlank d then [c] :: words rest
        else
          match words rest with
          | [] => [[c]]
          | w :: ws => (c :: w) :: ws

theorem blanks_append (s : Text) : s.blanks.1 ++ s.blanks.2 = s :=
  List.takeWhile_append_dropWhile

theorem blank_blanks (s : Text) : Blank s.blanks.1 := by
  intro c hc
  induction s with
  | nil => simp [blanks] at hc
  | cons d rest ih =>
    by_cases hd : isBlank d = true
    · simp only [blanks, List.takeWhile_cons_of_pos hd, List.mem_cons] at hc
      rcases hc with rfl | hc
      · exact hd
      · exact ih hc
    · simp [blanks, List.takeWhile_cons_of_neg hd] at hc

/-- Blanks followed by something else are cut off whole. -/
theorem blanks_of_blank {w rest : Text} (hw : Blank w)
    (hrest : ∀ c ∈ rest.head?, isBlank c = false) : blanks (w ++ rest) = (w, rest) := by
  induction w with
  | nil =>
    cases rest with
    | nil => rfl
    | cons c rest =>
      have hc : ¬ isBlank c = true := by simp [hrest c (by simp)]
      simp [blanks, List.takeWhile_cons_of_neg hc, List.dropWhile_cons_of_neg hc]
  | cons c w ih =>
    have hc : isBlank c = true := hw c (by simp)
    have h := ih fun d hd => hw d (by simp [hd])
    simp only [blanks, Prod.mk.injEq] at h ⊢
    simp only [List.cons_append, List.takeWhile_cons_of_pos hc, List.dropWhile_cons_of_pos hc,
      h.1, h.2, and_self]

end Text

end Tron
