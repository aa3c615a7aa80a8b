import Tron.Declaration.FnForm
import Tron.Declaration.LetForm
import Tron.Declaration.ParameterForm
import Tron.Proofs.TrimmedLines

/-! # Reading forms

A reader takes a form off a text exactly if the text starts with it and the form
is well formed. Each piece ends where a character of another kind stands, so a
text starts with at most one form of a kind.
-/

namespace Tron

theorem isBlank_of_isIdentifierPart {c : Char} (part : isIdentifierPart c = true) :
    isBlank c = false := by
  change (((decide (65 ≤ c.val ∧ c.val ≤ 90) || (decide (97 ≤ c.val) && decide (c.val ≤ 122))) ||
    (decide (48 ≤ c.val) && decide (c.val ≤ 57))) || c == '_') = true at part
  simp only [Bool.or_eq_true, Bool.and_eq_true, decide_eq_true_eq, beq_iff_eq,
    UInt32.le_iff_toNat_le] at part
  change (((65 ≤ c.toNat ∧ c.toNat ≤ 90) ∨ (97 ≤ c.toNat ∧ c.toNat ≤ 122)) ∨
    (48 ≤ c.toNat ∧ c.toNat ≤ 57)) ∨ c = '_' at part
  rcases part with number | rfl
  · simp only [isBlank, Bool.or_eq_false_iff, Bool.and_eq_false_iff, decide_eq_false_iff_not,
      beq_eq_false_iff_ne]
    omega
  · decide

theorem isIdentifierPart_of_isBlank {c : Char} (blank : isBlank c = true) :
    isIdentifierPart c = false := by
  cases part : isIdentifierPart c with
  | false => rfl
  | true => simp [isBlank_of_isIdentifierPart part] at blank

theorem isIdentifierPart_of_start {c : Char} (start : isIdentifierStart c = true) :
    isIdentifierPart c = true := by
  simp only [isIdentifierStart, isIdentifierPart, Char.isAlphanum, Bool.or_eq_true] at start ⊢
  rcases start with letter | underscore
  · exact Or.inl (Or.inl letter)
  · exact Or.inr underscore

namespace Text.StopsAt

variable {w s : Text}

/-- Blanks end an identifier, and so does whatever else is not part of one. -/
theorem blank_append (blank : Blank w) (rest : StopsAt isIdentifierPart s) :
    StopsAt isIdentifierPart (w ++ s) :=
  append (fun d member => isIdentifierPart_of_isBlank (blank d member)) rest

end Text.StopsAt

open Text

theorem IsIdentifier.part {name : Text} (identifier : IsIdentifier name) :
    ∀ c ∈ name, isIdentifierPart c = true := by
  cases name with
  | nil => exact absurd identifier id
  | cons c name =>
      intro d member
      rcases List.mem_cons.mp member with rfl | member
      · exact isIdentifierPart_of_start identifier.1
      · exact identifier.2 d member

theorem IsIdentifier.not_mem {name : Text} (identifier : IsIdentifier name) {c : Char}
    (sign : isIdentifierPart c = false) : c ∉ name := by
  intro member
  simp [identifier.part c member] at sign

theorem IsIdentifier.exists_cons {name : Text} (identifier : IsIdentifier name) :
    ∃ c rest, name = c :: rest ∧ isIdentifierStart c = true := by
  cases name with
  | nil => exact absurd identifier id
  | cons c rest => exact ⟨c, rest, rfl, identifier.1⟩

theorem IsIdentifier.stopsAt {name : Text} (identifier : IsIdentifier name) (s : Text) :
    StopsAt isBlank (name ++ s) := by
  obtain ⟨c, rest, rfl, start⟩ := identifier.exists_cons
  exact StopsAt.cons (isBlank_of_isIdentifierPart (isIdentifierPart_of_start start))

theorem Identifier.read?_eq_some_iff {s name rest : Text} :
    read? s = some (name, rest) ↔
      IsIdentifier name ∧ s = name ++ rest ∧ StopsAt isIdentifierPart rest := by
  constructor
  · intro taken
    cases s with
    | nil => simp [read?] at taken
    | cons c s =>
        simp only [read?, Option.ite_none_right_eq_some, Option.some.injEq, Prod.mk.injEq] at taken
        obtain ⟨start, rfl, rfl⟩ := taken
        refine ⟨⟨start, List.all_eq_true.mp List.all_takeWhile⟩, ?_, stopsAt_dropWhile _ s⟩
        rw [List.cons_append, List.takeWhile_append_dropWhile]
  · rintro ⟨identifier, rfl, stops⟩
    obtain ⟨c, more, rfl, start⟩ := identifier.exists_cons
    have taken : (more ++ rest).takeWhile isIdentifierPart = more ++ rest.takeWhile _ :=
      List.takeWhile_append_of_pos identifier.2
    have dropped : (more ++ rest).dropWhile isIdentifierPart = rest.dropWhile _ :=
      List.dropWhile_append_of_pos identifier.2
    have none : rest.takeWhile isIdentifierPart = [] ∧ rest.dropWhile isIdentifierPart = rest := by
      cases rest with
      | nil => exact ⟨rfl, rfl⟩
      | cons d rest => simp [stops d rfl]
    simp only [List.cons_append, read?, start, if_true, taken, dropped, none, List.append_nil]

theorem Text.after?_append (front s : Text) : after? front (front ++ s) = some s :=
  after?_eq_some_iff.mpr rfl

theorem Text.upTo?_append {stop : Char} {before : Text} (closed : stop ∉ before) (s : Text) :
    upTo? stop (before ++ stop :: s) = some (before, s) :=
  upTo?_eq_some_iff.mpr ⟨closed, rfl⟩

section Pieces

variable {w name : Text}

theorem Text.blanks_append_identifier (blank : Blank w) (identifier : IsIdentifier name)
    (s : Text) : blanks (w ++ (name ++ s)) = (w, name ++ s) :=
  blanks_of_blank blank (identifier.stopsAt s)

theorem Text.blanks_append_cons (blank : Blank w) {c : Char} (other : isBlank c = false)
    (s : Text) : blanks (w ++ c :: s) = (w, c :: s) :=
  blanks_of_blank blank (StopsAt.cons other)

theorem Identifier.read?_append_cons (identifier : IsIdentifier name) (blank : Blank w) {c : Char}
    (other : isIdentifierPart c = false) (s : Text) :
    read? (name ++ (w ++ c :: s)) = some (name, w ++ c :: s) :=
  read?_eq_some_iff.mpr ⟨identifier, rfl, .blank_append blank (.cons other)⟩

end Pieces

namespace LetForm

theorem WellFormed.initializer_stops {f : LetForm} (good : f.WellFormed) (s : Text) :
    StopsAt isBlank (f.initializer ++ ';' :: s) := by
  cases initializer : f.initializer with
  | nil => exact StopsAt.cons rfl
  | cons c more =>
      have first : f.initializer.head? = some c := by rw [initializer, List.head?_cons]
      exact StopsAt.cons (good.initializer_open c first)

theorem read?_text {f : LetForm} (good : f.WellFormed) (rest : Text) :
    read? (f.text ++ rest) = some (f, rest) := by
  have value : ∀ s, blanks (f.afterEquals ++ (f.initializer ++ ';' :: s)) =
      (f.afterEquals, f.initializer ++ ';' :: s) := by
    intro s
    exact blanks_of_blank good.afterEquals_blank (good.initializer_stops s)
  have colon : ∀ s, after? [':'] (':' :: s) = some s := after?_append [':']
  have equals : ∀ s, after? ['='] ('=' :: s) = some s := after?_append ['=']
  have notColon : isBlank ':' = false ∧ isIdentifierPart ':' = false := ⟨rfl, rfl⟩
  have notEquals : isBlank '=' = false ∧ isIdentifierPart '=' = false := ⟨rfl, rfl⟩
  simp only [read?, text, List.append_assoc, List.cons_append, List.nil_append,
    Option.bind_eq_bind, Option.bind_some, after?_append word,
    blanks_append_identifier good.afterLet_blank good.name_identifier,
    good.afterLet_ne_nil, if_false,
    Identifier.read?_append_cons good.name_identifier good.beforeColon_blank notColon.2,
    blanks_append_cons good.beforeColon_blank notColon.1, colon,
    blanks_append_identifier good.afterColon_blank good.declaredType_identifier,
    Identifier.read?_append_cons good.declaredType_identifier good.beforeEquals_blank notEquals.2,
    blanks_append_cons good.beforeEquals_blank notEquals.1, equals, value,
    upTo?_append good.initializer_closed]
  rfl

theorem of_read? {s rest : Text} {f : LetForm} (taken : read? s = some (f, rest)) :
    f.WellFormed ∧ s = f.text ++ rest := by
  simp only [read?, Option.bind_eq_bind, Option.bind_eq_some_iff, after?_eq_some_iff] at taken
  obtain ⟨s₁, rfl, taken⟩ := taken
  split at taken
  · simp at taken
  · next afterLet =>
      simp only [Option.bind_eq_some_iff, Identifier.read?_eq_some_iff, after?_eq_some_iff,
        upTo?_eq_some_iff, Prod.exists, Option.pure_def, Option.some.injEq, Prod.mk.injEq,
        List.cons_append, List.nil_append] at taken
      obtain ⟨name, s₂, ⟨name_identifier, split₂, -⟩, s₃, split₃, declaredType, s₄,
        ⟨type_identifier, split₄, -⟩, s₅, split₅, initializer, _, ⟨closed, split₆⟩, rfl, rfl⟩ :=
          taken
      have value_open : ∀ c ∈ initializer.head?, isBlank c = false := by
        intro c first
        apply blanks_stopsAt s₅ c
        rw [split₆, List.head?_append, first]
        rfl
      refine ⟨⟨afterLet, blank_blanks _, name_identifier, blank_blanks _, blank_blanks _,
        type_identifier, blank_blanks _, blank_blanks _, value_open, closed⟩, ?_⟩
      simp only [text, List.append_assoc, List.cons_append, List.nil_append]
      rw [← split₆, blanks_append, ← split₅, blanks_append, ← split₄, blanks_append, ← split₃,
        blanks_append, ← split₂, blanks_append]

/-- A variable declaration is read exactly where one stands. -/
theorem read?_eq_some_iff {s rest : Text} {f : LetForm} :
    read? s = some (f, rest) ↔ f.WellFormed ∧ s = f.text ++ rest := by
  constructor
  · exact of_read?
  · rintro ⟨good, rfl⟩
    exact read?_text good rest

end LetForm

namespace FnForm

theorem read?_text {f : FnForm} (good : f.WellFormed) (rest : Text) :
    read? (f.text ++ rest) = some (f, rest) := by
  have paren : ∀ s, after? ['('] ('(' :: s) = some s := after?_append ['(']
  have colon : ∀ s, after? [':'] (':' :: s) = some s := after?_append [':']
  have brace : ∀ s, after? ['{'] ('{' :: s) = some s := after?_append ['{']
  have notParen : isBlank '(' = false ∧ isIdentifierPart '(' = false := ⟨rfl, rfl⟩
  have notColon : isBlank ':' = false := rfl
  have notBrace : isBlank '{' = false ∧ isIdentifierPart '{' = false := ⟨rfl, rfl⟩
  simp only [read?, text, List.append_assoc, List.cons_append, List.nil_append,
    Option.bind_eq_bind, Option.bind_some, after?_append word,
    blanks_append_identifier good.afterFn_blank good.name_identifier,
    good.afterFn_ne_nil, if_false,
    Identifier.read?_append_cons good.name_identifier good.beforeParameters_blank notParen.2,
    blanks_append_cons good.beforeParameters_blank notParen.1, paren,
    upTo?_append good.parameters_closed, blanks_append_cons good.beforeColon_blank notColon, colon,
    blanks_append_identifier good.afterColon_blank good.returnType_identifier,
    Identifier.read?_append_cons good.returnType_identifier good.beforeBody_blank notBrace.2,
    blanks_append_cons good.beforeBody_blank notBrace.1, brace, upTo?_append good.body_closed]
  rfl

theorem of_read? {s rest : Text} {f : FnForm} (taken : read? s = some (f, rest)) :
    f.WellFormed ∧ s = f.text ++ rest := by
  simp only [read?, Option.bind_eq_bind, Option.bind_eq_some_iff, after?_eq_some_iff] at taken
  obtain ⟨s₁, rfl, taken⟩ := taken
  split at taken
  · simp at taken
  · next afterFn =>
      simp only [Option.bind_eq_some_iff, Identifier.read?_eq_some_iff, after?_eq_some_iff,
        upTo?_eq_some_iff, Prod.exists, Option.pure_def, Option.some.injEq, Prod.mk.injEq,
        List.cons_append, List.nil_append] at taken
      obtain ⟨name, s₂, ⟨name_identifier, split₂, -⟩, s₃, split₃, parameters, s₄,
        ⟨parameters_closed, rfl⟩, s₅, split₅, returnType, s₆, ⟨type_identifier, split₆, -⟩, s₇,
        split₇, body, _, ⟨body_closed, rfl⟩, rfl, rfl⟩ := taken
      refine ⟨⟨afterFn, blank_blanks _, name_identifier, blank_blanks _, parameters_closed,
        blank_blanks _, blank_blanks _, type_identifier, blank_blanks _, body_closed⟩, ?_⟩
      simp only [text, List.append_assoc, List.cons_append, List.nil_append]
      rw [← split₇, blanks_append, ← split₆, blanks_append, ← split₅, blanks_append, ← split₃,
        blanks_append, ← split₂, blanks_append]

/-- A function declaration is read exactly where one stands. -/
theorem read?_eq_some_iff {s rest : Text} {f : FnForm} :
    read? s = some (f, rest) ↔ f.WellFormed ∧ s = f.text ++ rest := by
  constructor
  · exact of_read?
  · rintro ⟨good, rfl⟩
    exact read?_text good rest

end FnForm

namespace ParameterForm

/-- A parameter takes up the blanks after it, and without any it takes up the
    whole word that names its type. -/
structure EndsBefore (f : ParameterForm) (rest : Text) : Prop where
  blanks : StopsAt isBlank rest
  type : StopsAt isIdentifierPart (f.after ++ rest)

theorem read?_text {f : ParameterForm} (good : f.WellFormed) {rest : Text}
    (ends : f.EndsBefore rest) : read? (f.text ++ rest) = some (f, rest) := by
  have colon : ∀ s, after? [':'] (':' :: s) = some s := after?_append [':']
  have notColon : isBlank ':' = false ∧ isIdentifierPart ':' = false := ⟨rfl, rfl⟩
  have declaredType : Identifier.read? (f.declaredType ++ (f.after ++ rest)) =
      some (f.declaredType, f.after ++ rest) :=
    Identifier.read?_eq_some_iff.mpr ⟨good.declaredType_identifier, rfl, ends.type⟩
  simp only [read?, text, List.append_assoc, List.cons_append, Option.bind_eq_bind,
    Option.bind_some, blanks_append_identifier good.before_blank good.name_identifier,
    Identifier.read?_append_cons good.name_identifier good.beforeColon_blank notColon.2,
    blanks_append_cons good.beforeColon_blank notColon.1, colon,
    blanks_append_identifier good.afterColon_blank good.declaredType_identifier, declaredType,
    blanks_of_blank good.after_blank ends.blanks]
  rfl

theorem of_read? {s rest : Text} {f : ParameterForm} (taken : read? s = some (f, rest)) :
    f.WellFormed ∧ s = f.text ++ rest ∧ f.EndsBefore rest := by
  simp only [read?, Option.bind_eq_bind, Option.bind_eq_some_iff, Identifier.read?_eq_some_iff,
    after?_eq_some_iff, Prod.exists, Option.pure_def, Option.some.injEq, Prod.mk.injEq,
    List.cons_append, List.nil_append] at taken
  obtain ⟨name, s₁, ⟨name_identifier, split₁, -⟩, s₂, split₂, declaredType, s₃,
    ⟨type_identifier, split₃, type_ends⟩, rfl, rfl⟩ := taken
  refine ⟨⟨blank_blanks _, name_identifier, blank_blanks _, blank_blanks _, type_identifier,
    blank_blanks _⟩, ?_, blanks_stopsAt s₃, by rwa [blanks_append]⟩
  simp only [text, List.append_assoc, List.cons_append]
  rw [blanks_append, ← split₃, blanks_append, ← split₂, blanks_append, ← split₁, blanks_append]

/-- A parameter is read exactly where one stands, up to the end of it. -/
theorem read?_eq_some_iff {s rest : Text} {f : ParameterForm} :
    read? s = some (f, rest) ↔ f.WellFormed ∧ s = f.text ++ rest ∧ f.EndsBefore rest := by
  constructor
  · exact of_read?
  · rintro ⟨good, rfl, ends⟩
    exact read?_text good ends

end ParameterForm

end Tron
