import Mathlib.Data.List.Basic
import Mathlib.Order.Bounds.Basic
import Tron.Position
import Tron.Proofs.PlaceOffsets

/-! # Places in order

Places are ordered as the offsets that they are the places of. A longer stretch of a
document ends on a later line, or on the same line and further along, since every
character of a line takes up columns. Only from the inside of a `\r\n` to its end does
the place not move. The place where the document ends is the greatest that it has.
-/

namespace Tron

namespace Text

theorem units_eq_zero_iff {s : Text} : units s = 0 ↔ s = [] := by
  cases s with
  | nil => simp [units]
  | cons c s =>
      have wide : codeUnits c ≠ 0 := by
        unfold codeUnits
        split <;> decide
      simp [units, wide]

theorem eq_nil_of_documentLines {s : Text} (lines : documentLines s = [[]]) : s = [] := by
  fun_cases documentLines s with
  | case1 => rfl
  | case2 rest | case3 rest => simp [documentLines, documentLines_ne_nil] at lines
  | case4 rest alone =>
      rw [documentLines_cons_return alone] at lines
      exact absurd (List.cons.inj lines).2 (documentLines_ne_nil rest)
  | case5 c rest _ newline lone =>
      rw [documentLines_cons_of_plain ⟨newline, lone⟩] at lines
      cases found : documentLines rest <;> simp [found, consLine] at lines

end Text

namespace Position

open Text

variable {p q : Position} {s a b : Text}

theorem le_def : p ≤ q ↔ p.line < q.line ∨ (p.line = q.line ∧ p.character ≤ q.character) :=
  Iff.rfl

instance : PartialOrder Position where
  le_refl p := Or.inr ⟨rfl, Nat.le_refl _⟩
  le_trans p q r first second := by
    rw [le_def] at first second ⊢
    omega
  le_antisymm p q first second := by
    rw [le_def] at first second
    cases p
    cases q
    simp only [Position.mk.injEq]
    simp only at first second
    omega

theorem lt_of_line_lt (below : p.line < q.line) : p < q := by
  rw [lt_iff_le_not_ge, le_def, le_def]
  omega

theorem lt_of_character_lt (same : p.line = q.line) (further : p.character < q.character) :
    p < q := by
  rw [lt_iff_le_not_ge, le_def, le_def]
  omega

/-- A stretch that goes on ends at a later place, unless it was cut inside a line break. -/
theorem endOf_lt_append (clean : CutsCleanly a b) (some_text : b ≠ []) :
    endOf a < endOf (a ++ b) := by
  obtain ⟨above, last, left⟩ := exists_documentLines_eq_append a
  obtain ⟨first, below, right⟩ := List.exists_cons_of_ne_nil (documentLines_ne_nil b)
  have whole := documentLines_append clean left right
  rcases List.eq_nil_or_concat' below with rfl | ⟨between, final, rfl⟩
  · -- the line goes on, and is not the same since something follows
    have longer : units first ≠ 0 := by
      intro none
      rw [units_eq_zero_iff.mp none] at right
      exact some_text (eq_nil_of_documentLines right)
    rw [endOf_of_documentLines left, endOf_of_documentLines whole]
    refine lt_of_character_lt rfl ?_
    simp only [units_append]
    omega
  · have ends : documentLines (a ++ b) = (above ++ (last ++ first) :: between) ++ [final] := by
      rw [whole, List.append_assoc, List.cons_append]
    rw [endOf_of_documentLines left, endOf_of_documentLines ends]
    refine lt_of_line_lt ?_
    simp only [List.length_append, List.length_cons]
    omega

/-- From the inside of a line break on, the places are those from its end on. -/
theorem endOf_append_of_torn (torn : ¬ CutsCleanly a b) :
    endOf a ≤ endOf (a ++ b) ∧ (endOf a = endOf (a ++ b) ↔ b.length = 1) := by
  obtain ⟨front, rest, rfl, rfl⟩ := exists_of_not_cutsCleanly torn
  have whole : front ++ ['\r'] ++ '\n' :: rest = (front ++ ['\r', '\n']) ++ rest := by simp
  rw [whole, ← endOf_return_newline front]
  cases rest with
  | nil => simp
  | cons c rest =>
      have clean : CutsCleanly (front ++ ['\r', '\n']) (c :: rest) := by simp [CutsCleanly]
      have before := endOf_lt_append clean (List.cons_ne_nil c rest)
      refine ⟨before.le, ?_⟩
      rw [iff_false_left before.ne]
      simp

theorem endOf_append_take (a rest : Text) {d : Nat} (inside : d ≤ rest.length) :
    endOf a ≤ endOf (a ++ rest.take d) ∧
      (endOf a = endOf (a ++ rest.take d) ↔ d = 0 ∨ (¬ CutsCleanly a rest ∧ d = 1)) := by
  cases d with
  | zero => simp
  | succ d =>
      have same : CutsCleanly a (rest.take (d + 1)) ↔ CutsCleanly a rest := by
        simp [CutsCleanly, List.head?_take]
      have length : (rest.take (d + 1)).length = d + 1 := List.length_take_of_le inside
      by_cases clean : CutsCleanly a rest
      · have some_text : rest.take (d + 1) ≠ [] := List.ne_nil_of_length_eq_add_one length
        have before := endOf_lt_append (same.mpr clean) some_text
        exact ⟨before.le, by simp [before.ne, clean]⟩
      · have torn : ¬ CutsCleanly a (rest.take (d + 1)) := fun whole => clean (same.mp whole)
        obtain ⟨before, equal⟩ := endOf_append_of_torn torn
        refine ⟨before, equal.trans ?_⟩
        rw [length]
        simp [clean]

theorem clamp_mono (s : Text) {o₁ o₂ : Int} (ordered : o₁ ≤ o₂) : clamp s o₁ ≤ clamp s o₂ := by
  unfold clamp
  omega

theorem ofOffset_le (s : Text) {o₁ o₂ : Int} (ordered : o₁ ≤ o₂) :
    ofOffset s o₁ ≤ ofOffset s o₂ ∧
      (ofOffset s o₁ = ofOffset s o₂ ↔ clamp s o₁ = clamp s o₂ ∨
        (¬ CutsCleanly (s.take (clamp s o₁)) (s.drop (clamp s o₁)) ∧
          clamp s o₂ = clamp s o₁ + 1)) := by
  obtain ⟨d, further⟩ := Nat.exists_eq_add_of_le (clamp_mono s ordered)
  have bound := clamp_le_length s o₂
  have inside : d ≤ (s.drop (clamp s o₁)).length := by
    rw [List.length_drop]
    omega
  have stretch := endOf_append_take (s.take (clamp s o₁)) (s.drop (clamp s o₁)) inside
  rw [← List.take_add, ← further] at stretch
  rw [ofOffset, ofOffset]
  refine ⟨stretch.1, stretch.2.trans ?_⟩
  rw [further]
  simp

theorem endOf_take_le (s : Text) (n : Nat) : endOf (s.take n) ≤ endOf s := by
  have stretch := (endOf_append_take (s.take n) (s.drop n) (Nat.le_refl _)).1
  rwa [List.take_length, List.take_append_drop] at stretch

theorem start_le (p : Position) : start ≤ p := by
  rw [le_def]
  simp only [start]
  omega

/-- A greater offset has a greater place, except that offsets with the same nearest offset
    in the document have the same place, and so have the inside of a line break and its
    end. The end of the whole document is the greatest place that an offset has, and the
    greatest that is read back as an offset, so every offset has its place in the whole. -/
theorem ofOffset_ordered (s : Text) :
    (∀ o₁ o₂, o₁ ≤ o₂ → ofOffset s o₁ ≤ ofOffset s o₂ ∧
      (ofOffset s o₁ = ofOffset s o₂ ↔ clamp s o₁ = clamp s o₂ ∨
        (¬ CutsCleanly (s.take (clamp s o₁)) (s.drop (clamp s o₁)) ∧
          clamp s o₂ = clamp s o₁ + 1))) ∧
    (IsGreatest (Set.range (ofOffset s)) (Span.whole s).stop ∧
      IsGreatest {p | ∃ n, p.offset? s = some n} (Span.whole s).stop) ∧
    ∀ o, (Span.whole s).start ≤ ofOffset s o ∧ ofOffset s o ≤ (Span.whole s).stop := by
  have whole : ofOffset s s.length = endOf s := by
    rw [ofOffset_natCast (Nat.le_refl _), List.take_length]
  refine ⟨fun o₁ o₂ => ofOffset_le s, ⟨⟨⟨_, whole⟩, ?_⟩, ⟨⟨s.length, ?_⟩, ?_⟩⟩, ?_⟩
  · rintro p ⟨o, rfl⟩
    exact endOf_take_le s (clamp s o)
  · exact offset?_endOf_self s
  · rintro p ⟨n, found⟩
    rw [← endOf_take_of_offset? found]
    exact endOf_take_le s n
  · exact fun o => ⟨start_le _, endOf_take_le s (clamp s o)⟩

theorem ofOffset_ordered_mixedBreaks :
    ofOffset mixedBreaks 2 = ofOffset mixedBreaks 3 ∧
    ofOffset mixedBreaks (-5) = ofOffset mixedBreaks 0 ∧
    ofOffset mixedBreaks 3 < ofOffset mixedBreaks 4 := by
  obtain ⟨ordered, -⟩ := ofOffset_ordered mixedBreaks
  obtain ⟨-, inside⟩ := ordered 2 3 (by decide)
  obtain ⟨-, nearest⟩ := ordered (-5) 0 (by decide)
  obtain ⟨before, apart⟩ := ordered 3 4 (by decide)
  refine ⟨inside.mpr (by decide), nearest.mpr (by decide), before.lt_of_ne fun same => ?_⟩
  exact absurd (apart.mp same) (by decide)

end Position
end Tron
