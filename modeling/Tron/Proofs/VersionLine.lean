import Mathlib.Data.Nat.Find
import Tron.Manifest
import Tron.Proofs.TrimmedLines

/-! # The line that tells the version

A line tells a version if nothing but blanks is left of it behind the quoted part. The
search does not ask where that line ends: it passes over blanks and line breaks alike and
goes back to a place where a line ends. Of the line breaks it has passed over the first
one ends the line, so both come to the same. A line that fails leaves the search where
that line started, so the next line is tried even if the failed one has quoted it.
-/

namespace Tron

namespace Text

theorem return_not_mem_unifyBreaks (s : Text) : '\r' ∉ unifyBreaks s := by
  fun_induction unifyBreaks s with
  | case1 => simp
  | case2 rest ih | case3 rest _ ih => simp [ih]
  | case4 c rest _ lone ih => simp [ih, Ne.symm lone]

theorem unifyBreaks_of_not_mem {s : Text} (unified : '\r' ∉ s) : unifyBreaks s = s := by
  fun_induction unifyBreaks s with
  | case1 => rfl
  | case2 rest | case3 rest => simp at unified
  | case4 c rest _ _ ih => rw [ih (mt (List.mem_cons_of_mem c) unified)]

end Text

namespace Manifest

open Text

/-- A line starts at the start of the text and behind each `\n`. -/
def StartsLine (s : Text) : Nat → Prop
  | 0 => True
  | place + 1 => s[place]? = some '\n'

instance (s : Text) : (place : Nat) → Decidable (StartsLine s place)
  | 0 => inferInstanceAs (Decidable True)
  | place + 1 => inferInstanceAs (Decidable (s[place]? = some '\n'))

/-- A line ends before each `\n` and at the end of the text. -/
def EndsLine (rest : Text) : Prop := ∀ c ∈ rest.head?, c = '\n'

/-- Nothing but blanks is left of the line. -/
def LineOver (s : Text) : Prop :=
  ∃ gap rest, s = gap ++ rest ∧ Blank gap ∧ '\n' ∉ gap ∧ EndsLine rest

/-- The line that starts at a place tells a version. The version may run on over further
    lines, and nothing is left of the line on which its quotation ends. -/
structure TellsAt (s : Text) (place : Nat) (told : Text) : Prop where
  starts : StartsLine s place
  some_text : told ≠ []
  closed : '"' ∉ told
  reads : ∃ rest, s.drop place = versionMark ++ (told ++ '"' :: rest) ∧ LineOver rest

/-- What a text tells when it is read line by line: the version of the first line that
    tells one, and the default version if no line does. -/
inductive ReadByLines (s : Text) : Text → Prop where
  | told {place : Nat} {told : Text} : TellsAt s place told →
      (∀ earlier < place, ∀ other, ¬ TellsAt s earlier other) → ReadByLines s told
  | untold : (∀ place told, ¬ TellsAt s place told) → ReadByLines s defaultVersion

/-- The text of a manifest with these bytes, all its line breaks written as `\n`. -/
def textOf {bytes : ByteArray} (valid : bytes.IsValidUTF8) : Text :=
  unifyBreaks (String.fromUTF8 bytes valid).toList

section

variable {s front rest gap told other : Text} {place : Nat}

/-- Blanks may go on over line breaks, as long as a line ends behind them. -/
theorem lineIsOver_iff_exists_blank :
    lineIsOver s = true ↔ ∃ gap rest, s = gap ++ rest ∧ Blank gap ∧ EndsLine rest := by
  induction s with
  | nil => exact iff_of_true rfl ⟨[], [], rfl, Blank.nil, by simp [EndsLine]⟩
  | cons c s ih =>
      simp only [lineIsOver, Bool.or_eq_true, Bool.and_eq_true, beq_iff_eq, ih]
      constructor
      · intro ended
        rcases ended with ⟨first, gap, rest, rfl, blank, ends⟩ | rfl
        · exact ⟨c :: gap, rest, rfl, Blank.cons first blank, ends⟩
        · exact ⟨[], '\n' :: s, rfl, Blank.nil, by simp [EndsLine]⟩
      · intro split
        obtain ⟨gap, rest, split, blank, ends⟩ := split
        cases gap with
        | nil =>
            rw [List.nil_append] at split
            subst split
            exact Or.inr (ends c rfl)
        | cons d gap =>
            obtain ⟨rfl, rfl⟩ := List.cons.inj split
            obtain ⟨first, blank⟩ := List.forall_mem_cons.mp blank
            exact Or.inl ⟨first, gap, rest, rfl, blank, ends⟩

/-- Of the line breaks among blanks the first one ends the line. -/
theorem lineOver_of_blank (blank : Blank gap) (ends : EndsLine rest) :
    LineOver (gap ++ rest) := by
  by_cases broken : '\n' ∈ gap
  -- what has been passed over from the first break on is given back
  · obtain ⟨front, back, rfl, first⟩ := List.eq_append_cons_of_mem broken
    have within : Blank front := fun c member => blank c (List.mem_append_left _ member)
    exact ⟨front, '\n' :: back ++ rest, by simp, within, first, by simp [EndsLine]⟩
  · exact ⟨gap, rest, rfl, blank, broken, ends⟩

theorem lineIsOver_iff : lineIsOver s = true ↔ LineOver s := by
  rw [lineIsOver_iff_exists_blank]
  constructor
  · intro split
    obtain ⟨gap, rest, rfl, blank, ends⟩ := split
    exact lineOver_of_blank blank ends
  · intro ended
    obtain ⟨gap, rest, split, blank, -, ends⟩ := ended
    exact ⟨gap, rest, split, blank, ends⟩

theorem versionAt?_eq_some_iff : versionAt? s = some told ↔
    told ≠ [] ∧ '"' ∉ told ∧
      ∃ rest, s = versionMark ++ (told ++ '"' :: rest) ∧ LineOver rest := by
  simp only [versionAt?, Option.bind_eq_bind, Option.bind_eq_some_iff, after?_eq_some_iff,
    Prod.exists, upTo?_eq_some_iff, Option.ite_none_right_eq_some, Option.some.injEq,
    Bool.and_eq_true, decide_eq_true_eq, lineIsOver_iff]
  constructor
  · intro taken
    obtain ⟨_, marked, quoted, rest, ⟨closed, rfl⟩, ⟨some_text, ended⟩, rfl⟩ := taken
    exact ⟨some_text, closed, rest, marked, ended⟩
  · intro reads
    obtain ⟨some_text, closed, rest, marked, ended⟩ := reads
    exact ⟨_, marked, told, rest, ⟨closed, rfl⟩, ⟨some_text, ended⟩, rfl⟩

theorem tellsAt_iff :
    TellsAt s place told ↔ StartsLine s place ∧ versionAt? (s.drop place) = some told := by
  rw [versionAt?_eq_some_iff]
  constructor
  · intro tells
    exact ⟨tells.starts, tells.some_text, tells.closed, tells.reads⟩
  · intro taken
    obtain ⟨starts, some_text, closed, reads⟩ := taken
    exact ⟨starts, some_text, closed, reads⟩

/-- A line tells at most one version. -/
theorem TellsAt.unique (first : TellsAt s place told) (second : TellsAt s place other) :
    told = other := by
  obtain ⟨-, taken⟩ := tellsAt_iff.mp first
  obtain ⟨-, taken'⟩ := tellsAt_iff.mp second
  exact Option.some.inj (taken.symm.trans taken')

theorem tellsAt_zero : TellsAt s 0 told ↔ versionAt? s = some told := by
  rw [tellsAt_iff]
  exact and_iff_right trivial

theorem tellsAt_behind_break :
    TellsAt (front ++ '\n' :: rest) (front.length + 1) told ↔
      versionAt? rest = some told := by
  rw [tellsAt_iff]
  simp [StartsLine]

/-! ## The search from line to line -/

theorem StartsLine.exists_break (starts : StartsLine s (place + 1)) :
    ∃ front rest, s = front ++ '\n' :: rest ∧ front.length = place := by
  obtain ⟨inside, broken⟩ := List.getElem?_eq_some_iff.mp starts
  refine ⟨s.take place, s.drop (place + 1), ?_, List.length_take_of_le (Nat.le_of_lt inside)⟩
  rw [← broken, List.getElem_cons_drop, List.take_append_drop]

theorem StartsLine.append (starts : StartsLine s place) (rest : Text) :
    StartsLine (s ++ rest) place := by
  cases place with
  | zero => trivial
  | succ place =>
      obtain ⟨front, back, rfl, rfl⟩ := starts.exists_break
      simp [StartsLine]

theorem StartsLine.versionAt?_eq_none (starts : StartsLine s place)
    (silent : ∀ told, ¬ TellsAt s place told) : versionAt? (s.drop place) = none :=
  Option.eq_none_iff_forall_ne_some.mpr fun told taken =>
    silent told (tellsAt_iff.mpr ⟨starts, taken⟩)

theorem exists_break_of_mem_laterLines {start : Text} (member : start ∈ laterLines s) :
    ∃ front, s = front ++ '\n' :: start := by
  induction s with
  | nil => simp [laterLines] at member
  | cons c s ih =>
      rw [laterLines] at member
      split at member
      case isTrue broken =>
          rcases List.mem_cons.mp member with rfl | member
          · exact ⟨[], by rw [broken, List.nil_append]⟩
          · obtain ⟨front, rfl⟩ := ih member
            exact ⟨c :: front, rfl⟩
      case isFalse =>
          obtain ⟨front, rfl⟩ := ih member
          exact ⟨c :: front, rfl⟩

/-- Only at the start of a line does the search look for a version. -/
theorem exists_place_of_mem_lineStarts {start : Text} (member : start ∈ lineStarts s) :
    ∃ place ≤ s.length, StartsLine s place ∧ s.drop place = start := by
  rcases List.mem_cons.mp member with rfl | member
  · exact ⟨0, Nat.zero_le _, trivial, rfl⟩
  · obtain ⟨front, rfl⟩ := exists_break_of_mem_laterLines member
    exact ⟨front.length + 1, by simp, by simp [StartsLine], by simp⟩

theorem laterLines_append_break (front rest : Text) :
    laterLines (front ++ '\n' :: rest) =
      (laterLines front).map (· ++ '\n' :: rest) ++ lineStarts rest := by
  induction front with
  | nil => rfl
  | cons c front ih =>
      by_cases broken : c = '\n'
      · simp [laterLines, broken, ih]
      · simp [laterLines, broken, ih]

theorem lineStarts_append_break (front rest : Text) :
    lineStarts (front ++ '\n' :: rest) =
      (lineStarts front).map (· ++ '\n' :: rest) ++ lineStarts rest := by
  simp only [lineStarts, laterLines_append_break, List.map_cons, List.cons_append]

/-- If no line up to a break tells a version, all that stands before the break counts for
    nothing, even where it has quoted what stands behind. -/
theorem version?_of_silent
    (silent : ∀ p ≤ front.length, ∀ told, ¬ TellsAt (front ++ '\n' :: rest) p told) :
    version? (front ++ '\n' :: rest) = version? rest := by
  have above : ((lineStarts front).map (· ++ '\n' :: rest)).findSome? versionAt? = none := by
    refine List.findSome?_eq_none_iff.mpr fun behind member => ?_
    obtain ⟨start, first, rfl⟩ := List.mem_map.mp member
    obtain ⟨place, inside, starts, rfl⟩ := exists_place_of_mem_lineStarts first
    rw [← List.drop_append_of_le_length inside]
    exact (starts.append _).versionAt?_eq_none (silent place inside)
  rw [version?, lineStarts_append_break, List.findSome?_append, above, Option.none_or, version?]

theorem version?_eq_none (silent : ∀ place told, ¬ TellsAt s place told) :
    version? s = none := by
  refine List.findSome?_eq_none_iff.mpr fun start member => ?_
  obtain ⟨place, -, starts, rfl⟩ := exists_place_of_mem_lineStarts member
  exact starts.versionAt?_eq_none (silent place)

theorem version?_of_versionAt? (taken : versionAt? s = some told) :
    version? s = some told := by
  rw [version?, lineStarts, List.findSome?_cons_of_isSome]
  all_goals simp [taken]

/-- The first line that tells a version decides. -/
theorem TellsAt.version?_eq (tells : TellsAt s place told)
    (first : ∀ earlier < place, ∀ other, ¬ TellsAt s earlier other) :
    version? s = some told := by
  cases place with
  | zero => exact version?_of_versionAt? (tellsAt_zero.mp tells)
  | succ place =>
      obtain ⟨front, rest, rfl, rfl⟩ := tells.starts.exists_break
      rw [version?_of_silent fun p before => first p (Nat.lt_succ_of_le before)]
      exact version?_of_versionAt? (tellsAt_behind_break.mp tells)

theorem exists_readByLines (s : Text) : ∃ told, ReadByLines s told := by
  classical
  by_cases some_line : ∃ place told, TellsAt s place told
  · obtain ⟨told, tells⟩ := Nat.find_spec some_line
    refine ⟨told, .told tells fun earlier before other tells' => ?_⟩
    exact Nat.find_min some_line before ⟨other, tells'⟩
  · exact ⟨defaultVersion, .untold fun place told tells => some_line ⟨place, told, tells⟩⟩

theorem ReadByLines.version?_getD (reads : ReadByLines s told) :
    (version? s).getD defaultVersion = told := by
  cases reads with
  | told tells first => rw [tells.version?_eq first, Option.getD_some]
  | untold silent => rw [version?_eq_none silent, Option.getD_none]

/-! ## Whole manifests -/

theorem version_eq_iff : version s = told ↔ ReadByLines (unifyBreaks s) told := by
  constructor
  · intro same
    obtain ⟨other, reads⟩ := exists_readByLines (unifyBreaks s)
    rwa [← same, version, reads.version?_getD]
  · exact ReadByLines.version?_getD

theorem version_of_silent (split : unifyBreaks s = front ++ '\n' :: rest)
    (silent : ∀ p ≤ front.length, ∀ told, ¬ TellsAt (unifyBreaks s) p told) :
    version s = version rest := by
  have unified : '\r' ∉ unifyBreaks s := return_not_mem_unifyBreaks s
  rw [split] at unified silent
  have behind : '\r' ∉ rest := fun member => unified (by simp [member])
  rw [version, split, version?_of_silent silent, version, unifyBreaks_of_not_mem behind]

theorem versionOfFile_of_valid {bytes : ByteArray} (valid : bytes.IsValidUTF8) :
    versionOfFile (some bytes) = .ok (version (String.fromUTF8 bytes valid).toList) := by
  simp [versionOfFile, String.fromUTF8?, valid]

end

/-- A manifest whose bytes can be decoded tells what is read line by line. A line tells at
    most one version. And as long as no line up to a line break tells one, the manifest
    tells what it would tell if it started behind that break: so a line that fails hides
    no later one, not even one that it has quoted. -/
theorem versionOfFile_by_lines {bytes : ByteArray} (valid : bytes.IsValidUTF8) :
    (∀ told, versionOfFile (some bytes) = .ok told ↔ ReadByLines (textOf valid) told) ∧
    (∀ place told other, TellsAt (textOf valid) place told → TellsAt (textOf valid) place other →
      told = other) ∧
    (∀ front rest, textOf valid = front ++ '\n' :: rest →
      (∀ p ≤ front.length, ∀ other, ¬ TellsAt (textOf valid) p other) →
      versionOfFile (some bytes) = .ok (version rest)) := by
  rw [versionOfFile_of_valid valid]
  refine ⟨fun told => ?_, fun _ _ _ => TellsAt.unique, fun front rest split silent => ?_⟩
  · rw [Except.ok.injEq, version_eq_iff, textOf]
  · rw [version_of_silent split silent]

/-- What the first line quotes goes on into the second line, which tells a version of two
    lines, with blank lines behind it. The last line would tell another one. -/
def quotedLine : String :=
  "version = \"0.9\r\nversion = \"1.2\r3\" \t\r\n\r\n\nversion = \"2\""

theorem versionOfFile_quotedLine :
    quotedLine.toUTF8.IsValidUTF8 ∧
    versionOfFile (some quotedLine.toUTF8) = .ok "1.2\n3".toList ∧
    versionOfFile (some quotedLine.toUTF8) =
      .ok (version "version = \"1.2\n3\" \t\n\n\nversion = \"2\"".toList) := by
  have valid : quotedLine.toUTF8.IsValidUTF8 := quotedLine.isValidUTF8
  obtain ⟨told_iff, -, hidesNone⟩ := versionOfFile_by_lines valid
  have nothing : ∀ p < 15, StartsLine (unifyBreaks quotedLine.toList) p →
      versionAt? ((unifyBreaks quotedLine.toList).drop p) = none := by decide
  have silent : ∀ p < 15, ∀ other, ¬ TellsAt (unifyBreaks quotedLine.toList) p other := by
    intro p before other tells
    obtain ⟨starts, taken⟩ := tellsAt_iff.mp tells
    rw [nothing p before starts] at taken
    cases taken
  have second : TellsAt (unifyBreaks quotedLine.toList) 15 "1.2\n3".toList :=
    tellsAt_iff.mpr (by decide)
  have split : unifyBreaks quotedLine.toList = "version = \"0.9".toList ++
      '\n' :: "version = \"1.2\n3\" \t\n\n\nversion = \"2\"".toList := by decide
  refine ⟨valid, (told_iff _).mpr (.told second silent), ?_⟩
  exact hidesNone _ _ split fun p inside => silent p (Nat.lt_succ_of_le inside)

end Manifest
end Tron
