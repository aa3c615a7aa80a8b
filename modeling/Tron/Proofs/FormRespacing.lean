import Mathlib.Data.List.Forall2
import Tron.Proofs.FormSearch
import Tron.Proofs.Respacing

/-! # Scanning a respaced text

A form asks for blanks at some places and allows them at others, but never asks
how many. So each form in a text is found in a respacing of it, with the same
names and types, and the search goes on behind it with respacings again.
-/

namespace Tron

open Text

namespace Reader

variable {φ ρ : Type} {read : Reader φ} {text : φ → Text} {value : φ → ρ} {R : ρ → ρ → Prop}

/-- What can be read off a text can be read off its respacings, with a related
    value, and leaves respacings. -/
def Respects (read : Reader φ) (value : φ → ρ) (R : ρ → ρ → Prop) : Prop :=
  ∀ {s t f rest}, Respaced s t → read s = some (f, rest) →
    ∃ g rest', read t = some (g, rest') ∧ R (value f) (value g) ∧ Respaced rest rest'

theorem Respects.read_eq_none (respects : Respects read value R) {s t : Text}
    (same : Respaced s t) (nothing : read s = none) : read t = none := by
  cases found : read t with
  | none => rfl
  | some taken =>
      obtain ⟨g, rest, other, -⟩ := respects same.symm found
      simp [nothing] at other

theorem Takes.length_lt (takes : Takes read text) {s rest : Text} {f : φ}
    (found : read s = some (f, rest)) : rest.length < s.length := by
  obtain ⟨some_text, rfl⟩ := takes found
  have positive := List.length_pos_of_ne_nil some_text
  rw [List.length_append]
  omega

/-- The forms of two respacings correspond one to one. -/
theorem Respects.forall₂_forms (respects : Respects read value R) (takes : Takes read text)
    (skips : ∀ {w}, Blank w → ∀ s, (forms read (w ++ s)).map value = (forms read s).map value)
    {s t : Text} (same : Respaced s t) :
    List.Forall₂ R ((forms read s).map value) ((forms read t).map value) := by
  -- the two searches go on together, and a form takes at least one character
  cases same with
  | ending left right =>
      have first := skips left []
      have second := skips right []
      rw [List.append_nil] at first second
      rw [first, second]
      exact List.Forall₂.nil
  | @gap c d w v s t first first' left right same =>
      rw [← List.cons_append, ← List.cons_append, skips (Blank.cons first left),
        skips (Blank.cons first' right)]
      exact respects.forall₂_forms takes skips same
  | @cons c s t plain same =>
      cases found : read (c :: s) with
      | none =>
          have nothing := respects.read_eq_none (same.cons plain) found
          rw [forms_cons_of_none found, forms_cons_of_none nothing]
          exact respects.forall₂_forms takes skips same
      | some taken =>
          obtain ⟨f, rest⟩ := taken
          obtain ⟨g, rest', found', related, later⟩ := respects (same.cons plain) found
          have shorter : rest.length < s.length + 1 := takes.length_lt found
          rw [forms_of_some takes found, forms_of_some takes found']
          exact List.Forall₂.cons related (respects.forall₂_forms takes skips later)
termination_by s.length
decreasing_by all_goals simp only [List.length_cons, List.length_append]; omega

theorem HeadedBy.plain {word : Text} (headed : HeadedBy read word) :
    ∀ c ∈ word, isBlank c = false :=
  fun c member => isBlank_of_isIdentifierPart (headed.part c member)

end Reader

namespace IsIdentifier

variable {name : Text}

theorem plain (identifier : IsIdentifier name) : ∀ c ∈ name, isBlank c = false :=
  fun c member => isBlank_of_isIdentifierPart (identifier.part c member)

theorem ne_nil (identifier : IsIdentifier name) : name ≠ [] := by
  rintro rfl
  exact identifier

end IsIdentifier

theorem Respaced.of_gap_identifier {w name s t : Text} (same : Respaced (w ++ (name ++ s)) t)
    (blank : Blank w) (identifier : IsIdentifier name) :
    ∃ v rest, t = v ++ (name ++ rest) ∧ Gap w v ∧ Respaced s rest :=
  same.of_gap_append blank identifier.plain identifier.ne_nil

/-- Two records of a variable that differ at most in blanks. -/
structure VariableDeclaration.SameWords (d e : VariableDeclaration) : Prop where
  rawText : words d.rawText = words e.rawText
  declaredType : d.declaredType = e.declaredType
  initializer : words d.initializer = words e.initializer

/-- Two records of a function that differ at most in blanks of the text. -/
structure FunctionDeclaration.SameWords (d e : FunctionDeclaration) : Prop where
  rawText : words d.rawText = words e.rawText
  parameters : d.parameters = e.parameters
  returnType : d.returnType = e.returnType

theorem LetForm.respects : Reader.Respects read? (fun f => (f.name, f.declaration))
    fun e e' => e.1 = e'.1 ∧ e.2.SameWords e'.2 := by
  intro s t f rest same found
  obtain ⟨good, rfl⟩ := read?_eq_some_iff.mp found
  have colon : isBlank ':' = false := rfl
  have equals : isBlank '=' = false := rfl
  have semicolon : isBlank ';' = false := rfl
  simp only [text, List.append_assoc, List.cons_append, List.nil_append] at same
  -- the pieces are found from left to right, each behind blanks of its own
  obtain ⟨t₀, rfl, same₀⟩ := same.of_append headed.plain
  obtain ⟨afterLet, t₁, rfl, gap₁, same₁⟩ :=
    same₀.of_gap_identifier good.afterLet_blank good.name_identifier
  obtain ⟨beforeColon, t₂, rfl, gap₂, same₂⟩ := same₁.of_gap_cons good.beforeColon_blank colon
  obtain ⟨afterColon, t₃, rfl, gap₃, same₃⟩ :=
    same₂.of_gap_identifier good.afterColon_blank good.declaredType_identifier
  obtain ⟨beforeEquals, t₄, rfl, gap₄, same₄⟩ := same₃.of_gap_cons good.beforeEquals_blank equals
  obtain ⟨afterEquals, t₅, rfl, gap₅, stops, same₅⟩ :=
    same₄.of_gap good.afterEquals_blank (good.initializer_stops rest) (by simp)
  obtain ⟨initializer, rest', rfl, later, value, build⟩ := same₅.of_append_cons semicolon
  let g : LetForm := ⟨afterLet, f.name, beforeColon, afterColon, f.declaredType, beforeEquals,
    afterEquals, initializer⟩
  have good' : g.WellFormed :=
    { afterLet_ne_nil := mt gap₁.nil_iff.mpr good.afterLet_ne_nil
      afterLet_blank := gap₁.right
      name_identifier := good.name_identifier
      beforeColon_blank := gap₂.right
      afterColon_blank := gap₃.right
      declaredType_identifier := good.declaredType_identifier
      beforeEquals_blank := gap₄.right
      afterEquals_blank := gap₅.right
      initializer_open := fun c first => stops c (by rw [List.head?_append, first]; rfl)
      initializer_closed := fun member =>
        good.initializer_closed (value.symm.mem semicolon member) }
  have texts : Respaced f.text g.text := by
    apply Respaced.append_left word
    apply Respaced.append gap₁
    apply Respaced.append_left f.name
    apply Respaced.append gap₂
    apply Respaced.cons colon
    apply Respaced.append gap₃
    apply Respaced.append_left f.declaredType
    apply Respaced.append gap₄
    apply Respaced.cons equals
    apply Respaced.append gap₅
    exact build Respaced.nil
  refine ⟨g, rest', read?_eq_some_iff.mpr ⟨good', ?_⟩, ⟨rfl, texts.words_eq, rfl, value.words_eq⟩,
    later⟩
  simp only [g, text, List.append_assoc, List.cons_append, List.nil_append]

namespace ParameterForm

theorem read?_blank_cons {c : Char} (blank : isBlank c = true) (s : Text) :
    read? (c :: s) =
      (read? s).map fun taken => ({ taken.1 with before := c :: taken.1.before }, taken.2) := by
  have cut : blanks (c :: s) = (c :: (blanks s).1, (blanks s).2) := by
    simp [blanks, List.takeWhile_cons_of_pos blank, List.dropWhile_cons_of_pos blank]
  simp only [read?, cut, Option.bind_eq_bind, Option.pure_def, Option.map_bind, Function.comp_def,
    Option.map_some]

/-- Blanks belong to the parameter after them, or to none. -/
theorem map_forms_blank_append {w : Text} (blank : Blank w) (s : Text) :
    (Reader.forms read? (w ++ s)).map parameter = (Reader.forms read? s).map parameter := by
  induction w with
  | nil => rfl
  | cons c w ih =>
      rw [Blank, List.forall_mem_cons] at blank
      rw [List.cons_append, ← ih blank.2]
      have here := read?_blank_cons blank.1 (w ++ s)
      cases found : read? (w ++ s) with
      | none =>
          rw [found] at here
          rw [Reader.forms_cons_of_none here]
      | some taken =>
          obtain ⟨f, rest⟩ := taken
          rw [found] at here
          rw [Reader.forms_of_some takes here, Reader.forms_of_some takes found]
          rfl

theorem respects : Reader.Respects read? parameter (· = ·) := by
  intro s t f rest same found
  obtain ⟨good, rfl, ends⟩ := read?_eq_some_iff.mp found
  simp only [text, List.append_assoc, List.cons_append] at same
  obtain ⟨before, t₁, rfl, gap₁, same₁⟩ :=
    same.of_gap_identifier good.before_blank good.name_identifier
  obtain ⟨beforeColon, t₂, rfl, gap₂, same₂⟩ :=
    same₁.of_gap_cons good.beforeColon_blank (by decide)
  obtain ⟨afterColon, t₃, rfl, gap₃, same₃⟩ :=
    same₂.of_gap_identifier good.afterColon_blank good.declaredType_identifier
  have later : Respaced rest (blanks t₃).2 := by
    have both := same₃.afterBlanks
    rwa [blanks_of_blank good.after_blank ends.blanks] at both
  let g : ParameterForm := ⟨before, f.name, beforeColon, afterColon, f.declaredType, (blanks t₃).1⟩
  have good' : g.WellFormed :=
    { before_blank := gap₁.right
      name_identifier := good.name_identifier
      beforeColon_blank := gap₂.right
      afterColon_blank := gap₃.right
      declaredType_identifier := good.declaredType_identifier
      after_blank := blank_blanks t₃ }
  have ends' : g.EndsBefore (blanks t₃).2 := by
    constructor
    · exact blanks_stopsAt t₃
    · rw [blanks_append]
      exact same₃.stopsAt (fun c blank => isIdentifierPart_of_isBlank blank) ends.type
  refine ⟨g, _, read?_eq_some_iff.mpr ⟨good', ?_, ends'⟩, rfl, later⟩
  simp only [g, text, List.append_assoc, List.cons_append, blanks_append]

end ParameterForm

theorem Parameter.listOf_eq_of_respaced {s t : Text} (same : Respaced s t) :
    listOf s = listOf t := by
  have related := ParameterForm.respects.forall₂_forms ParameterForm.takes
    ParameterForm.map_forms_blank_append same
  rw [listOf_eq_forms, listOf_eq_forms]
  exact List.forall₂_eq_eq_eq ▸ related

theorem FnForm.respects : Reader.Respects read? (fun f => (f.name, f.declaration))
    fun e e' => e.1 = e'.1 ∧ e.2.SameWords e'.2 := by
  intro s t f rest same found
  obtain ⟨good, rfl⟩ := read?_eq_some_iff.mp found
  have opening : isBlank '(' = false := rfl
  have closing : isBlank ')' = false := rfl
  have colon : isBlank ':' = false := rfl
  have brace : isBlank '{' = false := rfl
  have lastBrace : isBlank '}' = false := rfl
  simp only [text, List.append_assoc, List.cons_append, List.nil_append] at same
  obtain ⟨t₀, rfl, same₀⟩ := same.of_append headed.plain
  obtain ⟨afterFn, t₁, rfl, gap₁, same₁⟩ :=
    same₀.of_gap_identifier good.afterFn_blank good.name_identifier
  obtain ⟨beforeParameters, t₂, rfl, gap₂, same₂⟩ :=
    same₁.of_gap_cons good.beforeParameters_blank opening
  obtain ⟨parameters, t₃, rfl, same₃, list, buildList⟩ := same₂.of_append_cons closing
  obtain ⟨beforeColon, t₄, rfl, gap₄, same₄⟩ := same₃.of_gap_cons good.beforeColon_blank colon
  obtain ⟨afterColon, t₅, rfl, gap₅, same₅⟩ :=
    same₄.of_gap_identifier good.afterColon_blank good.returnType_identifier
  obtain ⟨beforeBody, t₆, rfl, gap₆, same₆⟩ := same₅.of_gap_cons good.beforeBody_blank brace
  obtain ⟨body, rest', rfl, later, inside, buildBody⟩ := same₆.of_append_cons lastBrace
  let g : FnForm := ⟨afterFn, f.name, beforeParameters, parameters, beforeColon, afterColon,
    f.returnType, beforeBody, body⟩
  have good' : g.WellFormed :=
    { afterFn_ne_nil := mt gap₁.nil_iff.mpr good.afterFn_ne_nil
      afterFn_blank := gap₁.right
      name_identifier := good.name_identifier
      beforeParameters_blank := gap₂.right
      parameters_closed := fun member => good.parameters_closed (list.symm.mem closing member)
      beforeColon_blank := gap₄.right
      afterColon_blank := gap₅.right
      returnType_identifier := good.returnType_identifier
      beforeBody_blank := gap₆.right
      body_closed := fun member => good.body_closed (inside.symm.mem lastBrace member) }
  have texts : Respaced f.text g.text := by
    apply Respaced.append_left word
    apply Respaced.append gap₁
    apply Respaced.append_left f.name
    apply Respaced.append gap₂
    apply Respaced.cons opening
    apply buildList
    apply Respaced.append gap₄
    apply Respaced.cons colon
    apply Respaced.append gap₅
    apply Respaced.append_left f.returnType
    apply Respaced.append gap₆
    apply Respaced.cons brace
    exact buildBody Respaced.nil
  refine ⟨g, rest', read?_eq_some_iff.mpr ⟨good', ?_⟩,
    ⟨rfl, texts.words_eq, Parameter.listOf_eq_of_respaced list, rfl⟩, later⟩
  simp only [g, text, List.append_assoc, List.cons_append, List.nil_append]

end Tron
