import Mathlib.Data.List.TakeWhile
import Tron.Proofs.FormOccurrences

/-! # Scanning a text that grows

What is found in a text is found again when more is written behind it. A declaration
that starts in the old text and is not complete there leaves the old text without the
signs that complete one. So none was found behind its start, and none gets lost.
-/

namespace Tron

open Grammar

namespace Grammar

/-- A text of the grammar holds the signs in their order, the last of them at its end
    and not all of them before. -/
structure ClosedBy (grammar : Language Char) (signs : Text) : Prop where
  holds : ∀ t ∈ grammar, signs.Sublist t
  unclosed : ∀ t ∈ grammar, ¬ signs.Sublist t.dropLast

/-- What a text of the grammar starts with does not hold the signs, unless it is all
    of the text. -/
theorem ClosedBy.not_sublist {grammar : Language Char} {signs front t : Text}
    (closed : ClosedBy grammar signs) (member : t ∈ grammar) (starts : front <+: t)
    (shorter : front.length < t.length) : ¬ signs.Sublist front := by
  intro inside
  have within : front <+: t.dropLast := by
    refine List.prefix_of_prefix_length_le starts t.dropLast_prefix ?_
    rw [List.length_dropLast]
    omega
  exact closed.unclosed t member (inside.trans within.sublist)

/-- The first of some signs is found at its first place. -/
theorem cons_sublist_append_cons {c : Char} {front : Text} (absent : c ∉ front)
    (signs rest : Text) :
    (c :: signs).Sublist (front ++ c :: rest) ↔ signs.Sublist rest := by
  induction front with
  | nil => exact List.cons_sublist_cons
  | cons d front ih =>
      simp only [List.mem_cons, not_or] at absent
      rw [List.cons_append, List.cons_sublist_cons', ih absent.2]
      simp [absent.1]

end Grammar

/-- A variable declaration ends at its only semicolon. -/
theorem LetForm.WellFormed.text_eq_concat {f : LetForm} (good : f.WellFormed) :
    ∃ front, ';' ∉ front ∧ f.text = front ++ [';'] := by
  have semicolon : isBlank ';' = false ∧ isIdentifierPart ';' = false := ⟨rfl, rfl⟩
  refine ⟨word ++ (f.afterLet ++ (f.name ++ (f.beforeColon ++ ':' :: (f.afterColon ++
    (f.declaredType ++ (f.beforeEquals ++ '=' :: (f.afterEquals ++ f.initializer))))))), ?_, ?_⟩
  · simp [word, semicolon, good.afterLet_blank.not_mem, good.name_identifier.not_mem,
      good.beforeColon_blank.not_mem, good.afterColon_blank.not_mem,
      good.declaredType_identifier.not_mem, good.beforeEquals_blank.not_mem,
      good.afterEquals_blank.not_mem, good.initializer_closed]
  · simp [text]

/-- A function declaration ends at the first closing brace behind its first closing
    parenthesis. Its parameters may hold closing braces, but no parenthesis. -/
theorem FnForm.WellFormed.text_eq_concat {f : FnForm} (good : f.WellFormed) :
    ∃ header rest, ')' ∉ header ∧ '}' ∉ rest ∧ f.text = header ++ ')' :: (rest ++ ['}']) := by
  have paren : isBlank ')' = false ∧ isIdentifierPart ')' = false := ⟨rfl, rfl⟩
  have brace : isBlank '}' = false ∧ isIdentifierPart '}' = false := ⟨rfl, rfl⟩
  refine ⟨word ++ (f.afterFn ++ (f.name ++ (f.beforeParameters ++ '(' :: f.parameters))),
    f.beforeColon ++ ':' :: (f.afterColon ++ (f.returnType ++ (f.beforeBody ++
      '{' :: f.body))), ?_, ?_, ?_⟩
  · simp [word, paren, good.afterFn_blank.not_mem, good.name_identifier.not_mem,
      good.beforeParameters_blank.not_mem, good.parameters_closed]
  · simp [brace, good.beforeColon_blank.not_mem, good.afterColon_blank.not_mem,
      good.returnType_identifier.not_mem, good.beforeBody_blank.not_mem, good.body_closed]
  · simp [text]

theorem LetForm.closed : ClosedBy grammar [';'] := by
  constructor
  case holds =>
    intro t member
    obtain ⟨f, good, rfl⟩ := mem_grammar_iff.mp member
    obtain ⟨front, -, split⟩ := good.text_eq_concat
    simp [split]
  case unclosed =>
    intro t member
    obtain ⟨f, good, rfl⟩ := mem_grammar_iff.mp member
    obtain ⟨front, absent, split⟩ := good.text_eq_concat
    simpa [split] using absent

theorem FnForm.closed : ClosedBy grammar [')', '}'] := by
  constructor
  case holds =>
    intro t member
    obtain ⟨f, good, rfl⟩ := mem_grammar_iff.mp member
    obtain ⟨header, rest, absent, -, split⟩ := good.text_eq_concat
    rw [split, cons_sublist_append_cons absent]
    simp
  case unclosed =>
    intro t member
    obtain ⟨f, good, rfl⟩ := mem_grammar_iff.mp member
    obtain ⟨header, rest, absent, unclosed, split⟩ := good.text_eq_concat
    rw [split, ← List.cons_append, ← List.append_assoc, List.dropLast_concat,
      cons_sublist_append_cons absent]
    simpa using unclosed

section Growth

variable {φ : Type} {read : Reader φ} {grammar : Language Char} {good : φ → Prop}
  {text : φ → Text} {signs s a b : Text} {place : Nat} {found : List (Occurrence φ)}

/-- Whether an occurrence ends within so many characters of the text. -/
def Occurrence.endsBy (text : φ → Text) (limit : Nat) (o : Occurrence φ) : Bool :=
  o.start + (text o.form).length ≤ limit

theorem Exhausts.lt_end_of_mem (exhausts : Exhausts grammar good text s place found) {limit : Nat}
    {o : Occurrence φ} (member : o ∈ found.dropWhile (Occurrence.endsBy text limit)) :
    limit < o.start + (text o.form).length := by
  have apart := exhausts.apart.sublist (List.dropWhile_sublist (Occurrence.endsBy text limit))
  have stop := List.head?_dropWhile_not (Occurrence.endsBy text limit) found
  cases behind : found.dropWhile (Occurrence.endsBy text limit) with
  | nil => simp [behind] at member
  | cons first later =>
      rw [behind] at member apart stop
      have beyond : limit < first.start + (text first.form).length := by
        simpa [Occurrence.endsBy] using stop
      cases List.mem_cons.mp member with
      | inl same => rwa [same]
      | inr member =>
          have next := (List.pairwise_cons.mp apart).1 o member
          omega

theorem Grammar.StandsAt.append {t : Text} (stands : StandsAt grammar a place t) (b : Text)
    (inside : place ≤ a.length) : StandsAt grammar (a ++ b) place t := by
  refine ⟨stands.1, ?_⟩
  rw [List.drop_append_of_le_length inside]
  exact List.prefix_append_of_prefix stands.2

theorem Grammar.StandsAt.of_append {t : Text} (stands : StandsAt grammar (a ++ b) place t)
    (inside : place + t.length ≤ a.length) : StandsAt grammar a place t := by
  have starts := stands.2
  rw [List.drop_append_of_le_length (by omega)] at starts
  refine ⟨stands.1, List.prefix_of_prefix_length_le starts (List.prefix_append _ _) ?_⟩
  rw [List.length_drop]
  omega

/-- A text of the grammar that stands in the longer text and not in the shorter one
    leaves no place behind its start at which one stands in the shorter one. -/
theorem Grammar.ClosedBy.not_standsAt (closed : ClosedBy grammar signs) {t u : Text}
    {later : Nat} (stands : StandsAt grammar (a ++ b) place t) (inside : place ≤ a.length)
    (beyond : a.length < place + t.length) (behind : place ≤ later) :
    ¬ StandsAt grammar a later u := by
  intro other
  have begun : a.drop place <+: t := by
    have starts := stands.2
    rw [List.drop_append_of_le_length inside] at starts
    refine List.prefix_of_prefix_length_le (List.prefix_append _ _) starts ?_
    rw [List.length_drop]
    omega
  refine closed.not_sublist stands.1 begun (by rw [List.length_drop]; omega) ?_
  have offset : a.drop later = (a.drop place).drop (later - place) := by
    rw [List.drop_drop, Nat.add_sub_cancel' behind]
  calc signs.Sublist u := closed.holds u other.1
    u.Sublist (a.drop later) := other.2.sublist
    (a.drop later).Sublist (a.drop place) := offset ▸ List.drop_sublist _ _

/-- Of what is found in the longer text, the part that ends within the shorter one
    exhausts the shorter one. -/
theorem Exhausts.takeWhile_endsBy (exhausts : Exhausts grammar good text (a ++ b) 0 found)
    (recognizes : Reader.Recognizes read grammar good text) (closed : ClosedBy grammar signs) :
    Exhausts grammar good text a 0 (found.takeWhile (Occurrence.endsBy text a.length)) := by
  have kept := List.takeWhile_sublist (Occurrence.endsBy text a.length) (l := found)
  have left := List.dropWhile_sublist (Occurrence.endsBy text a.length) (l := found)
  have parts := List.takeWhile_append_dropWhile (p := Occurrence.endsBy text a.length) (l := found)
  constructor
  case behind => exact fun o _ => Nat.zero_le _
  case stands =>
    intro o member
    have inside : o.start + (text o.form).length ≤ a.length := by
      simpa [Occurrence.endsBy] using List.mem_takeWhile_imp member
    exact (exhausts.stands o (kept.subset member)).of_append inside
  case divided => exact fun o member => exhausts.divided o (kept.subset member)
  case apart => exact exhausts.apart.sublist kept
  case silent =>
    intro p _ outside t stands
    have inside := recognizes.lt_length_of_standsAt stands
    refine exhausts.silent p (Nat.zero_le p) ?_ t (stands.append b inside.le)
    intro o member
    by_contra covers
    rw [not_or, not_lt, not_le] at covers
    rw [← parts] at member
    cases List.mem_append.mp member with
    | inl early =>
        have beside := outside o early
        omega
    | inr late =>
        have here := exhausts.stands o (left.subset late)
        have beyond := exhausts.lt_end_of_mem late
        exact closed.not_standsAt here (covers.1.trans inside.le) beyond covers.1 stands

/-- What is found in a text is found first in the text with more behind it, and what is
    found besides ends in what was added. -/
theorem Reader.Recognizes.occurrences_append (recognizes : Recognizes read grammar good text)
    (closed : ClosedBy grammar signs) (a b : Text) :
    ∃ later, read.occurrences (a ++ b) = read.occurrences a ++ later ∧
      ∀ o ∈ later, a.length < o.start + (text o.form).length := by
  have exhausts : Exhausts grammar good text (a ++ b) 0 (read.occurrences (a ++ b)) :=
    recognizes.exhausts_iff.mpr rfl
  have early : (read.occurrences (a ++ b)).takeWhile (Occurrence.endsBy text a.length) =
      read.occurrences a :=
    recognizes.exhausts_iff.mp (exhausts.takeWhile_endsBy recognizes closed)
  refine ⟨_, ?_, fun o => exhausts.lt_end_of_mem⟩
  rw [← early, List.takeWhile_append_dropWhile]

end Growth

namespace Declarations

/-- Writing on at the end of a text keeps every declaration found in it, at its place
    and with all its pieces. Names stay in front and in order, and a record changes only
    if a declaration that ends in what was added has its name. -/
theorem ofText_append (a b : Text) :
    (∃ later, LetForm.occurrences (a ++ b) = LetForm.occurrences a ++ later ∧
      (∀ o ∈ later, a.length < o.start + o.form.text.length) ∧
      (ofText (a ++ b)).variableTable.Continues (ofText a).variableTable
        (later.map fun o => (o.form.name, o.form.declaration))) ∧
    ∃ later, FnForm.occurrences (a ++ b) = FnForm.occurrences a ++ later ∧
      (∀ o ∈ later, a.length < o.start + o.form.text.length) ∧
      (ofText (a ++ b)).functionTable.Continues (ofText a).functionTable
        (later.map fun o => (o.form.name, o.form.declaration)) := by
  constructor
  · obtain ⟨later, split, beyond⟩ := LetForm.recognizes.occurrences_append LetForm.closed a b
    refine ⟨later, split, beyond, ?_⟩
    simp only [ofText, LetForm.occurrences, split, List.map_append]
    exact Table.continues_ofList_append _ _
  · obtain ⟨later, split, beyond⟩ := FnForm.recognizes.occurrences_append FnForm.closed a b
    refine ⟨later, split, beyond, ?_⟩
    simp only [ofText, FnForm.occurrences, split, List.map_append]
    exact Table.continues_ofList_append _ _

/-- What is added completes a function of the old text and declares one of its variables
    again. -/
theorem ofText_append_redeclared :
    let a := "let x:t=1;let y:u=2;fn f(p:t):u\x7b".toList
    let b := "\x7dlet x:v=3;".toList
    (ofText a).variableTable.keys = [['x'], ['y']] ∧ (ofText a).functionTable.keys = [] ∧
    (∃ later, LetForm.occurrences (a ++ b) = LetForm.occurrences a ++ later ∧
      later.map (·.start) = [33] ∧ [['x'], ['y']] <+: (ofText (a ++ b)).variableTable.keys ∧
      (ofText (a ++ b)).variableTable.get? ['x'] = some ⟨"let x:v=3;".toList, ['v'], ['3']⟩) ∧
    ∃ later, FnForm.occurrences (a ++ b) = FnForm.occurrences a ++ later ∧
      later.map (·.start) = [20] := by
  intro a b
  obtain ⟨ofLets, ofFns⟩ := ofText_append a b
  refine ⟨by decide, by decide, ?_, ?_⟩
  · obtain ⟨later, split, -, continues⟩ := ofLets
    have starts := congrArg (List.map (·.start)) split
    rw [List.map_append, show (LetForm.occurrences (a ++ b)).map (·.start) = [0, 10, 33] by decide,
      show (LetForm.occurrences a).map (·.start) = [0, 10] by decide] at starts
    exact ⟨later, split, by simpa using starts.symm, continues.keys, by decide⟩
  · obtain ⟨later, split, -⟩ := ofFns
    have starts := congrArg (List.map (·.start)) split
    rw [List.map_append, show (FnForm.occurrences (a ++ b)).map (·.start) = [20] by decide,
      show (FnForm.occurrences a).map (·.start) = [] by decide] at starts
    exact ⟨later, split, starts.symm⟩

end Declarations

end Tron
