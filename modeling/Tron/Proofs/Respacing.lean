import Tron.Proofs.TrimmedLines

/-! # Texts that differ in their blanks

Two texts are respacings of each other if they hold the same characters in the
same order, blanks apart, and have blanks at the same places. At the end of
either, blanks may be missing. Whatever is found at the front of the one is found
at the front of the other, and what follows are respacings again.
-/

namespace Tron

open Text

theorem Text.blanks_append_snd {w : Text} (blank : Blank w) (s : Text) : (blanks (w ++ s)).2 = (blanks s).2 := by
  induction w with
  | nil => rfl
  | cons c w ih =>
      rw [Blank, List.forall_mem_cons] at blank
      rw [List.cons_append, blanks, List.dropWhile_cons_of_pos blank.1]
      exact ih blank.2

/-- Two texts that are equal but for the lengths and the kinds of their runs of
    blanks, and for blanks at the end. -/
inductive Respaced : Text → Text → Prop
  | ending {w v : Text} : Blank w → Blank v → Respaced w v
  | cons {c : Char} {s t : Text} : isBlank c = false → Respaced s t → Respaced (c :: s) (c :: t)
  | gap {c d : Char} {w v s t : Text} : isBlank c = true → isBlank d = true → Blank w → Blank v →
      Respaced s t → Respaced (c :: (w ++ s)) (d :: (v ++ t))

/-- Blanks that may be exchanged between two pieces: none on both sides, or some
    on both. -/
structure Gap (w v : Text) : Prop where
  left : Blank w
  right : Blank v
  nil_iff : w = [] ↔ v = []

namespace Respaced

variable {c : Char} {s t u w v : Text}

theorem nil : Respaced [] [] := ending Blank.nil Blank.nil

theorem symm (same : Respaced s t) : Respaced t s := by
  induction same with
  | ending left right => exact ending right left
  | cons plain _ ih => exact cons plain ih
  | gap first_left first_right left right _ ih => exact gap first_right first_left right left ih

theorem append (spaces : Gap w v) (same : Respaced s t) : Respaced (w ++ s) (v ++ t) := by
  obtain ⟨left, right, nil_iff⟩ := spaces
  cases w with
  | nil =>
      rw [nil_iff.mp rfl]
      exact same
  | cons c w =>
      cases v with
      | nil => exact absurd (nil_iff.mpr rfl) (List.cons_ne_nil c w)
      | cons d v =>
          rw [Blank, List.forall_mem_cons] at left right
          exact gap left.1 right.1 left.2 right.2 same

theorem append_left (front : Text) (same : Respaced s t) : Respaced (front ++ s) (front ++ t) := by
  induction front with
  | nil => exact same
  | cons c front ih =>
      cases blank : isBlank c with
      | false => exact cons blank ih
      | true => exact gap (w := []) (v := []) blank blank Blank.nil Blank.nil ih

/-- A character that is not blank is at the front of both texts or of neither. -/
theorem of_cons (same : Respaced (c :: s) t) (plain : isBlank c = false) :
    ∃ rest, t = c :: rest ∧ Respaced s rest := by
  cases same with
  | ending left right => simp [left c List.mem_cons_self] at plain
  | cons _ same => exact ⟨_, rfl, same⟩
  | gap blank _ _ _ _ => simp [blank] at plain

theorem of_append {front : Text} (same : Respaced (front ++ s) t)
    (plain : ∀ c ∈ front, isBlank c = false) : ∃ rest, t = front ++ rest ∧ Respaced s rest := by
  induction front generalizing t with
  | nil => exact ⟨t, rfl, same⟩
  | cons c front ih =>
      rw [List.forall_mem_cons] at plain
      obtain ⟨behind, rfl, later⟩ := same.of_cons plain.1
      obtain ⟨rest, rfl, last⟩ := ih later plain.2
      exact ⟨rest, rfl, last⟩

theorem stopsAt {kind : Char → Bool} (blank : ∀ c, isBlank c = true → kind c = false)
    (same : Respaced s t) (stops : StopsAt kind s) : StopsAt kind t := by
  cases same with
  | ending _ right =>
      intro c first
      exact blank c (right c (List.mem_of_mem_head? first))
  | cons plain same => exact StopsAt.cons (stops _ rfl)
  | gap _ first _ _ _ => exact StopsAt.cons (blank _ first)

theorem afterBlanks (same : Respaced s t) : Respaced (blanks s).2 (blanks t).2 := by
  induction same with
  | @ending w v left right =>
      have nothing : ∀ {w : Text}, Blank w → (blanks w).2 = [] := by
        intro w blank
        rw [← List.append_nil w, blanks_append_snd blank]
        rfl
      rw [nothing left, nothing right]
      exact Respaced.nil
  | @cons c s t plain same _ =>
      have other : ∀ s, (blanks (c :: s)).2 = c :: s := by
        intro s
        simp [blanks, plain]
      rw [other, other]
      exact cons plain same
  | @gap c d w v s t first_left first_right left right _ ih =>
      rw [← List.cons_append, ← List.cons_append, blanks_append_snd (Blank.cons first_left left),
        blanks_append_snd (Blank.cons first_right right)]
      exact ih

/-- A text that does not start with a blank stands behind as many blanks, none
    or some. -/
theorem of_gap (same : Respaced (w ++ s) t) (blank : Blank w) (stops : StopsAt isBlank s)
    (some_text : s ≠ []) :
    ∃ v rest, t = v ++ rest ∧ Gap w v ∧ StopsAt isBlank rest ∧ Respaced s rest := by
  have behind : Respaced s (blanks t).2 := by
    have both := same.afterBlanks
    rwa [blanks_of_blank blank stops] at both
  have whole : (blanks t).1 ++ (blanks t).2 = t := blanks_append t
  refine ⟨_, _, whole.symm, ⟨blank, blank_blanks t, ?_⟩, blanks_stopsAt t, behind⟩
  obtain ⟨c, more, rfl⟩ := List.exists_cons_of_ne_nil some_text
  have plain : isBlank c = false := stops c rfl
  constructor
  · rintro rfl
    obtain ⟨rest, rfl, -⟩ := Respaced.of_cons same plain
    simp [blanks, plain]
  · intro empty
    obtain ⟨rest, split, -⟩ := behind.of_cons plain
    rw [empty, split] at whole
    cases w with
    | nil => rfl
    | cons d w =>
        -- the first text would start with a blank and the second would not
        rw [← whole] at same
        obtain ⟨left, back, -⟩ := same.symm.of_cons plain
        obtain ⟨rfl, -⟩ := List.cons.inj back
        simp [blank d List.mem_cons_self] at plain

theorem of_gap_append {front : Text} (same : Respaced (w ++ (front ++ s)) t) (blank : Blank w)
    (plain : ∀ c ∈ front, isBlank c = false) (some_front : front ≠ []) :
    ∃ v rest, t = v ++ (front ++ rest) ∧ Gap w v ∧ Respaced s rest := by
  have stops : StopsAt isBlank (front ++ s) := by
    obtain ⟨c, more, rfl⟩ := List.exists_cons_of_ne_nil some_front
    exact StopsAt.cons (plain c List.mem_cons_self)
  obtain ⟨v, behind, rfl, spaces, -, later⟩ := same.of_gap blank stops (by simp [some_front])
  obtain ⟨rest, rfl, last⟩ := later.of_append plain
  exact ⟨v, rest, rfl, spaces, last⟩

theorem of_gap_cons (same : Respaced (w ++ c :: s) t) (blank : Blank w)
    (plain : isBlank c = false) : ∃ v rest, t = v ++ c :: rest ∧ Gap w v ∧ Respaced s rest := by
  have single : ∀ d ∈ [c], isBlank d = false := by simpa using plain
  exact same.of_gap_append blank single (List.cons_ne_nil c [])

theorem mem (same : Respaced s t) (plain : isBlank c = false) (member : c ∈ s) : c ∈ t := by
  induction same with
  | ending left right => simp [left c member] at plain
  | cons _ _ ih =>
      rcases List.mem_cons.mp member with rfl | member
      · exact List.mem_cons_self
      · exact List.mem_cons_of_mem _ (ih member)
  | gap first_left _ left _ _ ih =>
      rcases List.mem_cons.mp member with rfl | member
      · simp [first_left] at plain
      · rcases List.mem_append.mp member with member | member
        · simp [left c member] at plain
        · exact List.mem_cons_of_mem _ (List.mem_append_right _ (ih member))

theorem exists_of_append_eq {rest : Text} (whole : u ++ c :: s = w ++ rest) (blank : Blank w)
    (plain : isBlank c = false) : ∃ behind, u = w ++ behind ∧ rest = behind ++ c :: s := by
  induction w generalizing u with
  | nil => exact ⟨u, rfl, whole.symm⟩
  | cons d w ih =>
      rw [Blank, List.forall_mem_cons] at blank
      cases u with
      | nil =>
          obtain ⟨rfl, -⟩ := List.cons.inj whole
          simp [plain] at blank
      | cons e u =>
          obtain ⟨rfl, same⟩ := List.cons.inj whole
          obtain ⟨behind, rfl, split⟩ := ih same blank.2
          exact ⟨behind, rfl, split⟩

/-- What stands before a character that is not blank is a respacing, also with
    that character and anything behind it. -/
theorem of_append_cons (same : Respaced (u ++ c :: s) t) (plain : isBlank c = false) :
    ∃ u' rest, t = u' ++ c :: rest ∧ Respaced s rest ∧ Respaced u u' ∧
      ∀ {x y}, Respaced x y → Respaced (u ++ c :: x) (u' ++ c :: y) := by
  generalize start : u ++ c :: s = whole at same
  induction same generalizing u with
  | ending left _ =>
      have blank : isBlank c = true := left c (by simp [← start])
      simp [plain] at blank
  | @cons d s₁ t₁ plain' same ih =>
      cases u with
      | nil =>
          obtain ⟨rfl, rfl⟩ := List.cons.inj start
          exact ⟨[], t₁, rfl, same, Respaced.nil, cons plain⟩
      | cons e u =>
          obtain ⟨rfl, split⟩ := List.cons.inj start
          obtain ⟨u', rest, rfl, later, before, build⟩ := ih split
          exact ⟨e :: u', rest, rfl, later, cons plain' before, fun same => cons plain' (build same)⟩
  | @gap d d' w v s₁ t₁ first first' left right same ih =>
      cases u with
      | nil =>
          obtain ⟨rfl, -⟩ := List.cons.inj start
          simp [plain] at first
      | cons e u =>
          obtain ⟨rfl, split⟩ := List.cons.inj start
          obtain ⟨u, rfl, behind⟩ := exists_of_append_eq split left plain
          obtain ⟨u', rest, rfl, later, before, build⟩ := ih behind.symm
          refine ⟨d' :: (v ++ u'), rest, by simp, later, gap first first' left right before, ?_⟩
          intro x y same
          simpa using gap first first' left right (build same)

end Respaced

def Text.startsPlain : Text → Bool
  | [] => false
  | c :: _ => !isBlank c

theorem Text.words_cons {c : Char} (plain : isBlank c = false) (s : Text) :
    words (c :: s) =
      if s.startsPlain then
        match words s with
        | [] => [[c]]
        | word :: more => (c :: word) :: more
      else [c] :: words s := by
  cases s with
  | nil => simp [words, plain, startsPlain]
  | cons d s =>
      rw [words.eq_def (c :: d :: s)]
      cases blank : isBlank d with
      | true => simp [plain, startsPlain, blank]
      | false =>
          cases found : words (d :: s) <;> simp [plain, startsPlain, blank, found]

theorem Text.words_blank_append {w : Text} (blank : Blank w) (s : Text) :
    words (w ++ s) = words s := by
  induction w with
  | nil => rfl
  | cons c w ih =>
      rw [Blank, List.forall_mem_cons] at blank
      rw [List.cons_append, words.eq_def]
      simpa [blank.1] using ih blank.2

theorem Respaced.startsPlain_eq {s t : Text} (same : Respaced s t) :
    s.startsPlain = t.startsPlain := by
  have blank_ending : ∀ {w : Text}, Blank w → w.startsPlain = false := by
    intro w blank
    cases w with
    | nil => rfl
    | cons c w => simp [startsPlain, blank c List.mem_cons_self]
  cases same with
  | ending left right => rw [blank_ending left, blank_ending right]
  | cons plain _ => rfl
  | gap first first' _ _ _ => simp [startsPlain, first, first']

/-- Respacings have the same words. -/
theorem Respaced.words_eq {s t : Text} (same : Respaced s t) : words s = words t := by
  induction same with
  | @ending w v left right =>
      rw [← List.append_nil w, ← List.append_nil v, words_blank_append left,
        words_blank_append right]
  | cons plain same ih => rw [words_cons plain, words_cons plain, same.startsPlain_eq, ih]
  | gap first first' left right _ ih =>
      rw [← List.cons_append, ← List.cons_append, words_blank_append (Blank.cons first left),
        words_blank_append (Blank.cons first' right), ih]

end Tron
