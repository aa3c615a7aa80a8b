import Mathlib.Data.List.Basic
import Tron.Proofs.LayoutNormal
import Tron.Proofs.Respacing

/-! # Words on their lines

A layout has the words of its document, each of them on the line of the same number.
Trimming a line takes nothing from between its words, so two words of one line stand
apart by the same blanks before and after. The words of a text are those of its lines,
since a line break separates words as any other blank does.
-/

namespace Tron

namespace Text

theorem words_ne_nil {s : Text} (starts : startsPlain s = true) : words s ≠ [] := by
  cases s with
  | nil => simp [startsPlain] at starts
  | cons c s =>
      have plain : isBlank c = false := by simpa [startsPlain] using starts
      rw [words_cons plain]
      split
      · split <;> simp
      · simp

theorem startsPlain_append_blank (s : Text) {c : Char} (blank : isBlank c = true) (t : Text) :
    startsPlain (s ++ c :: t) = startsPlain s := by
  cases s with
  | nil => simp [startsPlain, blank]
  | cons d s => rfl

theorem words_blank_cons {c : Char} (blank : isBlank c = true) (s : Text) :
    words (c :: s) = words s :=
  words_blank_append (Blank.cons blank Blank.nil) s

/-- A blank ends a word and is part of none. -/
theorem words_append_cons {c : Char} (blank : isBlank c = true) (s t : Text) :
    words (s ++ c :: t) = words s ++ words t := by
  induction s with
  | nil => exact words_blank_cons blank t
  | cons d s ih =>
      cases inside : isBlank d with
      | true =>
          rw [List.cons_append, words_blank_cons inside, words_blank_cons inside, ih]
      | false =>
          rw [List.cons_append, words_cons inside, words_cons inside, ih,
            startsPlain_append_blank s blank t]
          cases starts : startsPlain s with
          | false => rfl
          | true =>
              obtain ⟨word, more, found⟩ := List.exists_cons_of_ne_nil (words_ne_nil starts)
              rw [found]
              rfl

theorem words_append_of_ends {s : Text} (ends : ∀ c ∈ s.getLast?, isBlank c = true) (t : Text) :
    words (s ++ t) = words s ++ words t := by
  rcases List.eq_nil_or_concat' s with rfl | ⟨front, c, rfl⟩
  · rfl
  · have blank : isBlank c = true := ends c (by simp)
    have front_words := words_append_cons blank front []
    rw [List.append_assoc, List.singleton_append, words_append_cons blank, front_words]
    simp [words]

theorem words_append_of_starts {t : Text} (starts : ∀ c ∈ t.head?, isBlank c = true) (s : Text) :
    words (s ++ t) = words s ++ words t := by
  cases t with
  | nil => simp [words]
  | cons c t =>
      have blank : isBlank c = true := starts c rfl
      rw [words_append_cons blank, words_blank_cons blank]

theorem words_of_blank {w : Text} (blank : Blank w) : words w = [] := by
  rw [← List.append_nil w, words_blank_append blank]
  rfl

theorem words_append_blank {w : Text} (blank : Blank w) (s : Text) : words (s ++ w) = words s := by
  have starts : ∀ c ∈ w.head?, isBlank c = true :=
    fun c first => blank c (List.mem_of_mem_head? first)
  rw [words_append_of_starts starts, words_of_blank blank, List.append_nil]

theorem words_trim (s : Text) : words (trim s) = words s := by
  obtain ⟨w, v, before, after, split⟩ := exists_eq_trim s
  calc words (trim s) = words (w ++ (trim s ++ v)) := by
        rw [words_blank_append before, words_append_blank after]
    _ = words s := by rw [← split]

/-- The words of a text, line by line. -/
def wordsByLine (s : Text) : List (List Text) := (lines s).map words

/-- No word goes on over the end of a line. -/
theorem flatten_wordsByLine (s : Text) : (wordsByLine s).flatten = words s := by
  obtain ⟨-, cut⟩ | ⟨line, lineBreak, rest, isBreak, -, split, cut⟩ := lines_cases s
  · simp [wordsByLine, cut]
  · have shorter : rest.length < s.length := split ▸ isBreak.length_lt line rest
    have later := flatten_wordsByLine rest
    have broken : words (line ++ (lineBreak ++ rest)) = words line ++ words rest := by
      cases isBreak with
      | inl single =>
          rw [single]
          exact words_append_cons (by decide) line rest
      | inr pair =>
          rw [pair, ← words_blank_cons (c := '\n') (by decide) rest]
          exact words_append_cons (by decide) line _
    rw [wordsByLine] at later ⊢
    rw [cut, List.map_cons, List.flatten_cons, later, split, broken]
termination_by s.length

/-- A run of characters that are not blank. -/
structure IsWord (word : Text) : Prop where
  ne_nil : word ≠ []
  plain : ∀ c ∈ word, isBlank c = false

instance (word : Text) : Decidable (IsWord word) :=
  decidable_of_iff (word ≠ [] ∧ word.all (!isBlank ·) = true) <| by
    simp only [List.all_eq_true, Bool.not_eq_true']
    exact ⟨fun both => ⟨both.1, both.2⟩, fun isWord => ⟨isWord.ne_nil, isWord.plain⟩⟩

theorem IsWord.words_eq {word : Text} (isWord : IsWord word) : words word = [word] := by
  obtain ⟨some_text, plain⟩ := isWord
  induction word with
  | nil => exact absurd rfl some_text
  | cons c word ih =>
      rw [List.forall_mem_cons] at plain
      cases word with
      | nil => rw [words_cons plain.1]; rfl
      | cons d word =>
          have starts : startsPlain (d :: word) = true := by simp [startsPlain, plain.2 d]
          rw [words_cons plain.1, ih (List.cons_ne_nil d word) plain.2, if_pos starts]

/-- Two words of a line with nothing but blanks between them. Neither goes on into what
    stands before the first or behind the second. -/
structure Neighbours (line front word gap next back : Text) : Prop where
  split : line = front ++ ((word ++ (gap ++ next)) ++ back)
  first : IsWord word
  second : IsWord next
  gap_ne_nil : gap ≠ []
  gap_blank : Blank gap
  starts : ∀ c ∈ front.getLast?, isBlank c = true
  stops : ∀ c ∈ back.head?, isBlank c = true

/-- A stretch with no blank at either end stands clear of the blanks at the ends of a
    line. -/
theorem exists_of_trimmed {w core v front stretch back : Text}
    (whole : front ++ (stretch ++ back) = w ++ (core ++ v)) (before : Blank w) (after : Blank v)
    (trimmed : Trimmed stretch) (some_text : stretch ≠ []) :
    ∃ x y, front = w ++ x ∧ core = x ++ (stretch ++ y) ∧ back = y ++ v := by
  obtain ⟨c, more, rfl⟩ := List.exists_cons_of_ne_nil some_text
  obtain ⟨x, rfl, behind⟩ :=
    Respaced.exists_of_append_eq (s := more ++ back) whole before (trimmed.first c rfl)
  have cut : core ++ v = (x ++ c :: more) ++ back := by
    rw [behind, List.append_assoc, List.cons_append]
  rcases List.append_eq_append_iff.mp cut with ⟨surplus, split, rest⟩ | ⟨y, split, rest⟩
  · rcases List.eq_nil_or_concat' surplus with rfl | ⟨front, d, rfl⟩
    · rw [List.append_nil] at split
      exact ⟨x, [], rfl, by rw [List.append_nil, split], by simpa using rest.symm⟩
    · -- the stretch would end with a blank
      have last : (c :: more).getLast? = some d := by
        have ends := congrArg List.getLast? split
        simpa [List.getLast?_append] using ends
      have blank : isBlank d = true := after d (by simp [rest])
      rw [trimmed.last d last] at blank
      cases blank
  · exact ⟨x, y, rfl, by rw [split, List.append_assoc], rest⟩

namespace Neighbours

variable {line line' front word gap next back : Text}

theorem trimmed (near : Neighbours line front word gap next back) :
    Trimmed (word ++ (gap ++ next)) := by
  constructor
  · obtain ⟨c, more, rfl⟩ := List.exists_cons_of_ne_nil near.first.ne_nil
    exact StopsAt.cons (near.first.plain c List.mem_cons_self)
  · obtain ⟨less, d, rfl⟩ := List.eq_nil_or_concat' next |>.resolve_left near.second.ne_nil
    simpa [List.getLast?_append] using near.second.plain d (by simp)

/-- Neighbours follow one another among the words of the line. -/
theorem words_eq (near : Neighbours line front word gap next back) :
    words line = words front ++ word :: next :: words back := by
  obtain ⟨c, more, rfl⟩ := List.exists_cons_of_ne_nil near.gap_ne_nil
  obtain ⟨first, others⟩ := List.forall_mem_cons.mp near.gap_blank
  calc words line = words (front ++ (word ++ c :: (more ++ (next ++ back)))) := by
        rw [near.split]
        simp only [List.append_assoc, List.cons_append]
    _ = words front ++ (words word ++ (words next ++ words back)) := by
        rw [words_append_of_ends near.starts, words_append_cons first,
          words_blank_append others, words_append_of_starts near.stops]
    _ = words front ++ word :: next :: words back := by
        rw [near.first.words_eq, near.second.words_eq]
        rfl

/-- Lines that differ only in the blanks at their ends have the same neighbours. -/
theorem of_trim_eq (near : Neighbours line front word gap next back)
    (same : trim line = trim line') :
    ∃ front' back', Neighbours line' front' word gap next back' ∧
      words front' = words front ∧ words back' = words back := by
  obtain ⟨w, v, before, after, split⟩ := exists_eq_trim line
  obtain ⟨w', v', before', after', split'⟩ := exists_eq_trim line'
  have whole : front ++ ((word ++ (gap ++ next)) ++ back) = w ++ (trim line ++ v) := by
    rw [← near.split, ← split]
  have some_text : word ++ (gap ++ next) ≠ [] := by simp [near.gap_ne_nil]
  obtain ⟨x, y, rfl, core, rfl⟩ :=
    exists_of_trimmed whole before after near.trimmed some_text
  refine ⟨w' ++ x, y ++ v', ⟨?_, near.first, near.second, near.gap_ne_nil, near.gap_blank, ?_, ?_⟩,
    ?_, ?_⟩
  · rw [split', ← same, core]
    simp only [List.append_assoc]
  · intro c last
    cases x with
    | nil => exact before' c (List.mem_of_mem_getLast? (by simpa using last))
    | cons d x => exact near.starts c (by simpa [List.getLast?_append] using last)
  · intro c first
    cases y with
    | nil => exact after' c (List.mem_of_mem_head? first)
    | cons d y => exact near.stops c first
  · rw [words_blank_append before', words_blank_append before]
  · rw [words_append_blank after', words_append_blank after]

end Neighbours

end Text

namespace Layout

open Text

variable {s new : Text}

theorem wordsByLine_eq_map_trimmedLines (s : Text) :
    wordsByLine s = (trimmedLines s).map words := by
  rw [wordsByLine, trimmedLines, List.map_map]
  exact List.map_congr_left fun line _ => (words_trim line).symm

theorem wordsByLine_of_format (laid : format s = .ok new) : wordsByLine new = wordsByLine s := by
  rw [wordsByLine_eq_map_trimmedLines, wordsByLine_eq_map_trimmedLines, trimmedLines_of_format laid]

/-- The line of a number in a document and in its layout are the same between the
    blanks at their ends. -/
theorem exists_line_of_format (laid : format s = .ok new) {i : Nat} {line : Text}
    (found : (lines s)[i]? = some line) :
    ∃ line', (lines new)[i]? = some line' ∧ trim line = trim line' := by
  have same := congrArg (·[i]?) (trimmedLines_of_format laid)
  simp only [trimmedLines, List.getElem?_map, found, Option.map_some,
    Option.map_eq_some_iff] at same
  obtain ⟨line', found', trimmed⟩ := same
  exact ⟨line', found', trimmed.symm⟩

/-- A layout has the words of its document, and has the same ones on each line. Between
    two neighbours on a line stand the same blanks before and after. -/
theorem format_keeps_words (laid : format s = .ok new) :
    words new = words s ∧
    (wordsByLine new = wordsByLine s ∧
      (wordsByLine s).flatten = words s ∧ (wordsByLine new).flatten = words new) ∧
    ∀ (i : Nat) line front word gap next back, (lines s)[i]? = some line →
      Neighbours line front word gap next back →
      words line = words front ++ word :: next :: words back ∧
      ∃ line' front' back', (lines new)[i]? = some line' ∧
        Neighbours line' front' word gap next back' ∧
        words front' = words front ∧ words back' = words back := by
  have byLine := wordsByLine_of_format laid
  refine ⟨?_, ⟨byLine, flatten_wordsByLine s, flatten_wordsByLine new⟩, ?_⟩
  · rw [← flatten_wordsByLine new, byLine, flatten_wordsByLine s]
  · intro i line front word gap next back found near
    obtain ⟨line', found', same⟩ := exists_line_of_format laid found
    obtain ⟨front', back', near', before, behind⟩ := near.of_trim_eq same
    exact ⟨near.words_eq, line', front', back', found', near', before, behind⟩

/-- A document whose second line has a wide blank and a tab at its ends, and a `\r` and a
    further blank between its three words. -/
def uneven : Text := " f\t \x7b\r\n\u2003x\u00a0=\r1\t\n\n\x7d\n".toList

def evened : Text := "f\t \x7b\n    x\u00a0=\r1\n\n\x7d\n".toList

theorem format_keeps_words_uneven :
    format uneven = .ok evened ∧
    (words evened = words uneven ∧
      wordsByLine evened = [[['f'], ['{']], [['x'], ['='], ['1']], [], [['}']], []]) ∧
    ∃ line front back, (lines evened)[1]? = some line ∧
      Neighbours line front ['='] ['\r'] ['1'] back ∧ words front = [['x']] ∧ words back = [] := by
  have laid : format uneven = .ok evened := format_eq_ok_iff.mpr ⟨by decide, by decide⟩
  have near : Neighbours "\u2003x\u00a0=\r1\t".toList "\u2003x\u00a0".toList ['='] ['\r'] ['1']
      ['\t'] := by
    refine ⟨rfl, by decide, by decide, by decide, by decide, ?_, ?_⟩
    · intro c last
      obtain rfl : '\u00a0' = c := Option.some.inj last
      decide
    · intro c first
      obtain rfl : '\t' = c := Option.some.inj first
      decide
  obtain ⟨same, ⟨byLine, -⟩, spaced⟩ := format_keeps_words laid
  obtain ⟨-, line, front, back, found, stands, before, behind⟩ :=
    spaced 1 _ _ _ _ _ _ (by decide) near
  exact ⟨laid, ⟨same, by rw [byLine]; decide⟩, line, front, back, found, stands,
    by rw [before]; decide, by rw [behind]; decide⟩

end Layout
end Tron
