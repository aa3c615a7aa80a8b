import Tron.Proofs.PlaceDecoding

/-! # The place of an offset

A document cut in two has the lines of its two parts, except that the last line of the
one and the first of the other are one line. Only a cut inside a `\r\n` gives the first
part a line break of its own. So the place at which the first part ends lies on the line
of the document that is cut there, and the cut inside a line break has the place of the
cut behind it.
-/

namespace Tron

namespace Text

instance (front rest : Text) : Decidable (CutsCleanly front rest) :=
  inferInstanceAs (Decidable (¬ _))

/-- The lines of two parts of a document, the second cut off from the last line of the
    first, and the lines of the document. -/
structure Seam (a b : Text) (above : List Text) (last first : Text) (below : List Text) : Prop where
  left : documentLines a = above ++ [last]
  right : documentLines b = first :: below
  whole : documentLines (a ++ b) = above ++ (last ++ first) :: below

namespace Seam

variable {a b : Text} {above below : List Text} {last first : Text}

theorem under (seam : Seam a b above last first below) (lineBreak : Text)
    (alone : documentLines (lineBreak ++ a) = [] :: documentLines a)
    (joined : documentLines (lineBreak ++ (a ++ b)) = [] :: documentLines (a ++ b)) :
    Seam (lineBreak ++ a) b ([] :: above) last first below := by
  refine ⟨?_, seam.right, ?_⟩
  · rw [alone, seam.left, List.cons_append]
  · rw [List.append_assoc, joined, seam.whole, List.cons_append]

theorem beside (seam : Seam a b above last first below) {c : Char}
    (plain : c ≠ '\n' ∧ c ≠ '\r') : ∃ above last, Seam (c :: a) b above last first below := by
  have alone := documentLines_cons_of_plain plain a
  have joined := documentLines_cons_of_plain plain (a ++ b)
  cases above with
  | nil =>
      refine ⟨[], c :: last, ?_, seam.right, ?_⟩
      · rw [alone, seam.left]
        rfl
      · rw [List.cons_append, joined, seam.whole]
        rfl
  | cons line above =>
      refine ⟨(c :: line) :: above, last, ?_, seam.right, ?_⟩
      · rw [alone, seam.left]
        rfl
      · rw [List.cons_append, joined, seam.whole]
        rfl

theorem exists_of_cutsCleanly (clean : CutsCleanly a b) :
    ∃ above last first below, Seam a b above last first below := by
  fun_induction documentLines a with
  | case1 =>
      obtain ⟨first, below, lines⟩ := List.exists_cons_of_ne_nil (documentLines_ne_nil b)
      exact ⟨[], [], first, below, rfl, lines, lines⟩
  | case2 a ih =>
      obtain ⟨above, last, first, below, seam⟩ := ih clean.tail.tail
      exact ⟨_, _, _, _, seam.under ['\r', '\n'] rfl rfl⟩
  | case3 a ih =>
      obtain ⟨above, last, first, below, seam⟩ := ih clean.tail
      exact ⟨_, _, _, _, seam.under ['\n'] rfl rfl⟩
  | case4 a alone ih =>
      obtain ⟨above, last, first, below, seam⟩ := ih clean.tail
      refine ⟨_, _, _, _, seam.under ['\r'] ?_ ?_⟩
      · exact documentLines_cons_return alone
      · exact documentLines_cons_return (clean.not_newline alone)
  | case5 c a _ newline lone ih =>
      obtain ⟨above, last, first, below, seam⟩ := ih clean.tail
      obtain ⟨above, last, seam⟩ := seam.beside ⟨newline, lone⟩
      exact ⟨above, last, first, below, seam⟩

end Seam

theorem exists_documentLines_eq_append (s : Text) :
    ∃ above last, documentLines s = above ++ [last] :=
  ⟨_, _, (List.dropLast_concat_getLast (documentLines_ne_nil s)).symm⟩

/-- A document that is cut cleanly has the lines of its parts, with the two that meet at
    the cut joined. -/
theorem documentLines_append {a b last first : Text} {above below : List Text}
    (clean : CutsCleanly a b) (left : documentLines a = above ++ [last])
    (right : documentLines b = first :: below) :
    documentLines (a ++ b) = above ++ (last ++ first) :: below := by
  obtain ⟨above', last', first', below', seam⟩ := Seam.exists_of_cutsCleanly clean
  obtain ⟨rfl, same⟩ := List.append_inj' (left.symm.trans seam.left) rfl
  obtain ⟨rfl, rfl⟩ := List.cons.inj (right.symm.trans seam.right)
  rw [seam.whole, List.singleton_inj.mp same]

theorem documentLines_of_plain {s : Text} (plain : ∀ c ∈ s, c ≠ '\n' ∧ c ≠ '\r') :
    documentLines s = [s] := by
  induction s with
  | nil => rfl
  | cons c s ih =>
      obtain ⟨here, others⟩ := List.forall_mem_cons.mp plain
      rw [documentLines_cons_of_plain here, ih others]
      rfl

theorem prefix_of_documentLines {b first : Text} {below : List Text}
    (lines : documentLines b = first :: below) : first <+: b := by
  fun_induction documentLines b generalizing first below with
  | case1 | case2 | case3 | case4 =>
      obtain ⟨rfl, -⟩ := List.cons.inj lines
      exact List.nil_prefix
  | case5 c b _ _ _ ih =>
      obtain ⟨line, more, found⟩ := List.exists_cons_of_ne_nil (documentLines_ne_nil b)
      rw [found] at lines
      obtain ⟨rfl, -⟩ := List.cons.inj lines
      exact List.cons_prefix_cons.mpr ⟨rfl, ih found⟩

end Text

namespace Position

open Text

theorem endOf_of_documentLines {s last : Text} {above : List Text}
    (lines : documentLines s = above ++ [last]) : endOf s = ⟨above.length, units last⟩ := by
  simp [endOf, lines]

/-- A `\r` at the end of a text is a line break, and so is the `\r\n` made of it. -/
theorem endOf_return_newline (s : Text) : endOf (s ++ ['\r', '\n']) = endOf (s ++ ['\r']) := by
  obtain ⟨above, last, left⟩ := exists_documentLines_eq_append s
  have pair : documentLines (s ++ ['\r', '\n']) = above ++ [last ++ [], []] :=
    documentLines_append (by simp [CutsCleanly]) left rfl
  have single : documentLines (s ++ ['\r']) = above ++ [last ++ [], []] :=
    documentLines_append (by simp [CutsCleanly]) left rfl
  rw [endOf, endOf, pair, single]

/-- The text before the start of a line holds the lines above it. -/
theorem documentLines_of_lineStart? {s : Text} {line start : Nat}
    (starts : lineStart? s line = some start) :
    ∃ above, documentLines (s.take start) = above ++ [[]] ∧ above.length = line := by
  fun_induction lineStart? s line generalizing start with
  | case1 s =>
      obtain rfl := Option.some.inj starts
      exact ⟨[], rfl, rfl⟩
  | case2 line => cases starts
  | case3 rest line ih | case4 rest line ih =>
      obtain ⟨behind, found, rfl⟩ := Option.map_eq_some_iff.mp starts
      obtain ⟨above, lines, count⟩ := ih found
      exact ⟨[] :: above, by simp [documentLines, lines], by simp [count]⟩
  | case5 rest line alone ih =>
      obtain ⟨behind, found, rfl⟩ := Option.map_eq_some_iff.mp starts
      obtain ⟨above, lines, count⟩ := ih found
      have alone' : ∀ more, rest.take behind ≠ '\n' :: more := by
        intro more cut
        obtain ⟨tail, split⟩ := List.take_prefix behind rest
        exact alone (more ++ tail) (by rw [← split, cut, List.cons_append])
      refine ⟨[] :: above, ?_, by simp [count]⟩
      rw [List.take_succ_cons, documentLines_cons_return alone', lines, List.cons_append]
  | case6 c rest line _ newline lone ih =>
      obtain ⟨behind, found, rfl⟩ := Option.map_eq_some_iff.mp starts
      obtain ⟨above, lines, count⟩ := ih found
      obtain ⟨first, above, rfl⟩ := List.exists_cons_of_length_eq_add_one count
      refine ⟨(c :: first) :: above, ?_, by simpa using count⟩
      rw [List.take_succ_cons, documentLines_cons_of_plain ⟨newline, lone⟩, lines]
      rfl

theorem take_of_charactersTo? {s : Text} {width along : Nat}
    (reached : charactersTo? s width = some along) :
    units (s.take along) = width ∧ ∀ c ∈ s.take along, c ≠ '\n' ∧ c ≠ '\r' := by
  fun_induction charactersTo? s width generalizing along with
  | case1 s =>
      obtain rfl := Option.some.inj reached
      simp [units]
  | case2 | case3 => cases reached
  | case4 c rest width inside ih =>
      obtain ⟨further, found, rfl⟩ := Option.map_eq_some_iff.mp reached
      obtain ⟨columns, plain⟩ := ih found
      rw [not_or, not_or] at inside
      obtain ⟨newline, lone, fits⟩ := inside
      rw [List.take_succ_cons]
      refine ⟨?_, List.forall_mem_cons.mpr ⟨⟨newline, lone⟩, plain⟩⟩
      rw [units, columns]
      omega

/-- A place that a document has is the place of the offset that is read from it. -/
theorem endOf_take_of_offset? {s : Text} {p : Position} {n : Nat} (found : p.offset? s = some n) :
    endOf (s.take n) = p := by
  simp only [offset?, Option.bind_eq_bind, Option.bind_eq_some_iff, Option.pure_def,
    Option.some.injEq] at found
  obtain ⟨start, starts, along, reached, rfl⟩ := found
  obtain ⟨above, lines, count⟩ := documentLines_of_lineStart? starts
  obtain ⟨columns, plain⟩ := take_of_charactersTo? reached
  have clean : CutsCleanly (s.take start) ((s.drop start).take along) := by
    rintro ⟨-, next⟩
    exact (plain '\n' (List.mem_of_mem_head? next)).1 rfl
  have whole := documentLines_append clean lines (documentLines_of_plain plain)
  rw [List.take_add, endOf_of_documentLines whole, count, List.nil_append, columns]

theorem clamp_le_length (s : Text) (offset : Int) : clamp s offset ≤ s.length :=
  Nat.min_le_right _ _

theorem length_take_clamp (s : Text) (offset : Int) :
    (s.take (clamp s offset)).length = clamp s offset :=
  List.length_take_of_le (clamp_le_length s offset)

theorem ofOffset_natCast {s : Text} {n : Nat} (inside : n ≤ s.length) :
    ofOffset s n = endOf (s.take n) := by
  rw [ofOffset, clamp, Int.toNat_natCast, Nat.min_eq_left inside]

/-- The two parts of a cut inside a line break. -/
theorem exists_of_not_cutsCleanly {front rest : Text} (torn : ¬ CutsCleanly front rest) :
    ∃ a b, front = a ++ ['\r'] ∧ rest = '\n' :: b := by
  obtain ⟨last, next⟩ := Classical.not_not.mp torn
  obtain ⟨a, rfl⟩ := List.getLast?_eq_some_iff.mp last
  obtain ⟨b, rfl⟩ := List.head?_eq_some_iff.mp next
  exact ⟨a, b, rfl, rfl⟩

/-- The end of the first part of a document stands on the line that is cut there. -/
theorem exists_line_of_cutsCleanly {a b : Text} (clean : CutsCleanly a b) :
    ∃ start front back, lineStart? (a ++ b) (endOf a).line = some start ∧
      (documentLines (a ++ b))[(endOf a).line]? = some (front ++ back) ∧
      front ++ back <+: (a ++ b).drop start ∧
      units front = (endOf a).character ∧ start + front.length = a.length := by
  obtain ⟨start, last, found⟩ := LastLine.exists_of_cutsCleanly clean
  obtain ⟨above, last', left⟩ := exists_documentLines_eq_append a
  obtain ⟨first, below, right⟩ := List.exists_cons_of_ne_nil (documentLines_ne_nil b)
  obtain rfl : last' = last := by simpa [left] using found.is_last
  have whole := documentLines_append clean left right
  have starts := found.starts
  rw [endOf_of_documentLines left, whole]
  rw [left, List.length_append, List.length_singleton, Nat.add_sub_cancel] at starts
  refine ⟨start.length, last', first, starts, by simp, ?_, rfl, ?_⟩
  · rw [found.split, List.append_assoc, List.drop_left, List.prefix_append_right_inj]
    exact prefix_of_documentLines right
  · rw [found.split, List.length_append]

/-- The place of an offset that is not inside a line break is read back as that offset,
    which lies on the line of the place, as many columns on as the place says. An offset
    inside a line break has the place of the offset behind the break. -/
theorem ofOffset_reads_back (s : Text) (offset : Int) :
    let c := clamp s offset
    let p := ofOffset s offset
    (CutsCleanly (s.take c) (s.drop c) →
      p.offset? s = some c ∧
      ∃ start front back, lineStart? s p.line = some start ∧
        (documentLines s)[p.line]? = some (front ++ back) ∧ front ++ back <+: s.drop start ∧
        units front = p.character ∧ start + front.length = c) ∧
    (¬ CutsCleanly (s.take c) (s.drop c) → p = ofOffset s (c + 1 : Nat)) := by
  intro c p
  have split : s.take c ++ s.drop c = s := List.take_append_drop c s
  have place : p = endOf (s.take c) := rfl
  have length : (s.take c).length = c := length_take_clamp s offset
  constructor
  · intro clean
    have decoded := offset?_endOf clean
    have line := exists_line_of_cutsCleanly clean
    rw [split, length] at decoded line
    exact ⟨decoded, line⟩
  · intro torn
    obtain ⟨a, b, front, rest⟩ := exists_of_not_cutsCleanly torn
    have whole : s = (a ++ ['\r', '\n']) ++ b := by
      rw [← split, front, rest]
      simp
    have further : c + 1 = (a ++ ['\r', '\n']).length := by
      rw [← length, front]
      simp
    have behind : s.take (c + 1) = a ++ ['\r', '\n'] := by
      rw [further, whole, List.take_left]
    have inside : c + 1 ≤ s.length := by
      rw [further, whole]
      simp
    rw [place, ofOffset_natCast inside, front, behind, endOf_return_newline]

/-- The second line starts with a character of two code units. -/
def mixedBreaks : Text := "a\r\n😀b\rc".toList

theorem ofOffset_reads_back_mixedBreaks :
    (ofOffset mixedBreaks 4 = ⟨1, 2⟩ ∧ Position.offset? mixedBreaks ⟨1, 2⟩ = some 4) ∧
    (ofOffset mixedBreaks 100).offset? mixedBreaks = some 7 ∧
    ofOffset mixedBreaks 2 = ofOffset mixedBreaks 3 := by
  have place : ofOffset mixedBreaks 4 = ⟨1, 2⟩ := by decide
  obtain ⟨decoded, -⟩ := (ofOffset_reads_back mixedBreaks 4).1 (by decide)
  obtain ⟨ending, -⟩ := (ofOffset_reads_back mixedBreaks 100).1 (by decide)
  have behind := (ofOffset_reads_back mixedBreaks 2).2 (by decide)
  rw [place] at decoded
  exact ⟨⟨place, decoded⟩, ending, behind⟩

end Position
end Tron
