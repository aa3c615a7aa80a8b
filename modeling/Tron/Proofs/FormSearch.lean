import Tron.Declaration.Scan
import Tron.Proofs.FormReading

/-! # Searching for forms

The forms found in a text depend on the text alone and not on where the search
began. A form at the front is found first, and the search goes on behind it. A
stretch in which nothing can be read is passed over.

Declarations start with a word, blanks and an identifier, which is why the
search passes over identifiers that merely end with the word, and over every
stretch that does not hold it.
-/

namespace Tron

open Text

namespace Reader

variable {φ : Type} {read : Reader φ} {text : φ → Text}

/-- The forms found in a text, without their offsets. -/
def forms (read : Reader φ) (s : Text) : List φ := (read.occurrences s).map (·.form)

/-- What a reader takes is the text of its form, and not empty. -/
def Takes (read : Reader φ) (text : φ → Text) : Prop :=
  ∀ {s f rest}, read s = some (f, rest) → text f ≠ [] ∧ s = text f ++ rest

theorem map_form_occurrencesFrom (read : Reader φ) (offset offset' skip : Nat) (s : Text) :
    (read.occurrencesFrom offset skip s).map (·.form) =
      (read.occurrencesFrom offset' skip s).map (·.form) := by
  induction s generalizing offset offset' skip with
  | nil => simp [occurrencesFrom]
  | cons c s ih =>
      cases skip with
      | succ skip => exact ih _ _ _
      | zero =>
          simp only [occurrencesFrom]
          cases read (c :: s) with
          | none => exact ih _ _ _
          | some found => exact congrArg (found.1 :: ·) (ih _ _ _)

theorem forms_nil (read : Reader φ) : forms read [] = [] := rfl

theorem forms_cons_of_none {c : Char} {s : Text} (nothing : read (c :: s) = none) :
    forms read (c :: s) = forms read s := by
  simp only [forms, occurrences, occurrencesFrom, nothing]
  exact map_form_occurrencesFrom read _ _ _ s

theorem forms_of_some (takes : Takes read text) {s rest : Text} {f : φ}
    (found : read s = some (f, rest)) : forms read s = f :: forms read rest := by
  obtain ⟨some_text, split⟩ := takes found
  obtain ⟨c, front, front_eq⟩ := List.exists_cons_of_ne_nil some_text
  rw [front_eq] at split
  subst split
  have behind : (front ++ rest).drop ((front ++ rest).length - rest.length) = rest := by
    rw [List.length_append, Nat.add_sub_cancel, List.drop_left]
  rw [List.cons_append] at found ⊢
  simp only [forms, occurrences, occurrencesFrom, found, List.map_cons]
  rw [occurrencesFrom_skip, behind, map_form_occurrencesFrom read _ 0]

/-- A stretch at no place of which a form can be read is passed over. -/
theorem forms_append_of_silent {front rest : Text}
    (silent : ∀ q, q ≠ [] → q <:+ front → read (q ++ rest) = none) :
    forms read (front ++ rest) = forms read rest := by
  induction front with
  | nil => rfl
  | cons c front ih =>
      have here : read (c :: (front ++ rest)) = none :=
        silent (c :: front) (by simp) (List.suffix_refl _)
      rw [List.cons_append, forms_cons_of_none here]
      exact ih fun q some_text inside => silent q some_text (inside.trans (List.suffix_cons c front))

/-- What a reader takes starts with a word, blanks and an identifier. -/
structure HeadedBy (read : Reader φ) (word : Text) : Prop where
  word_part : word.all isIdentifierPart = true
  word_ne_nil : word ≠ []
  starts : ∀ {s f rest}, read s = some (f, rest) →
    ∃ w c more, s = word ++ (w ++ c :: more) ∧ w ≠ [] ∧ Blank w ∧ isIdentifierStart c = true

namespace HeadedBy

variable {word w name s rest : Text} {c : Char}

theorem part (headed : HeadedBy read word) : ∀ c ∈ word, isIdentifierPart c = true :=
  List.all_eq_true.mp headed.word_part

theorem read_eq_none (headed : HeadedBy read word) (other : ¬ word <+: s) : read s = none := by
  cases found : read s with
  | none => rfl
  | some taken =>
      obtain ⟨w, c, more, split, -⟩ := headed.starts found
      exact absurd ⟨_, split.symm⟩ other

theorem forms_cons (headed : HeadedBy read word) (other : word.head? ≠ some c) (s : Text) :
    forms read (c :: s) = forms read s := by
  refine forms_cons_of_none (headed.read_eq_none ?_)
  rintro ⟨more, split⟩
  obtain ⟨d, tail, word_eq⟩ := List.exists_cons_of_ne_nil headed.word_ne_nil
  rw [word_eq, List.cons_append] at split
  exact other (by rw [word_eq, (List.cons.inj split).1]; rfl)

theorem forms_sign_cons (headed : HeadedBy read word) (sign : isIdentifierPart c = false)
    (s : Text) : forms read (c :: s) = forms read s := by
  refine headed.forms_cons (fun first => ?_) s
  simp [headed.part c (List.mem_of_mem_head? first)] at sign

theorem forms_blank_append (headed : HeadedBy read word) (blank : Blank w) (s : Text) :
    forms read (w ++ s) = forms read s := by
  induction w with
  | nil => rfl
  | cons c w ih =>
      have sign : isIdentifierPart c = false :=
        isIdentifierPart_of_isBlank (blank c List.mem_cons_self)
      rw [List.cons_append, headed.forms_sign_cons sign]
      exact ih fun d member => blank d (List.mem_cons_of_mem c member)

/-- An identifier before a sign is passed over, even if it ends with the word. -/
theorem forms_identifier_append (headed : HeadedBy read word) (identifier : IsIdentifier name)
    (blank : Blank w) (sign : isIdentifierPart c = false) (plain : isBlank c = false) (s : Text) :
    forms read (name ++ (w ++ c :: s)) = forms read s := by
  rw [forms_append_of_silent, headed.forms_blank_append blank, headed.forms_sign_cons sign]
  intro q _ inside
  cases found : read (q ++ (w ++ c :: s)) with
  | none => rfl
  | some taken =>
      obtain ⟨v, d, more, split, some_blank, blank', start⟩ := headed.starts found
      -- both sides start with a maximal run of identifier characters
      have own : (q ++ (w ++ c :: s)).dropWhile isIdentifierPart = w ++ c :: s :=
        dropWhile_append (fun d member => identifier.part d (inside.subset member))
          (StopsAt.blank_append blank (StopsAt.cons sign))
      have theirs : (word ++ (v ++ d :: more)).dropWhile isIdentifierPart = v ++ d :: more := by
        obtain ⟨e, v, rfl⟩ := List.exists_cons_of_ne_nil some_blank
        have sign_e := isIdentifierPart_of_isBlank (blank' e List.mem_cons_self)
        exact dropWhile_append headed.part (StopsAt.cons sign_e)
      have behind : w ++ c :: s = v ++ d :: more := by rw [← own, split, theirs]
      have part_d := isIdentifierPart_of_start start
      have signs := congrArg blanks behind
      rw [blanks_append_cons blank plain,
        blanks_append_cons blank' (isBlank_of_isIdentifierPart part_d)] at signs
      obtain ⟨rfl, -⟩ := List.cons.inj (Prod.mk.inj signs).2
      simp [sign] at part_d

/-- A stretch that does not hold the word is passed over, if what follows cannot
    complete the word. -/
theorem forms_append_of_not_infix (headed : HeadedBy read word) (quiet : ¬ word <:+: s)
    (apart : ∀ c ∈ rest.head?, c ∉ word.tail) : forms read (s ++ rest) = forms read rest := by
  refine forms_append_of_silent fun q some_text inside => headed.read_eq_none fun starts => ?_
  rcases List.prefix_or_prefix_of_prefix starts (List.prefix_append q rest) with short | ⟨u, long⟩
  · exact quiet (short.isInfix.trans inside.isInfix)
  · cases u with
    | nil => exact quiet (by simpa [← long] using inside.isInfix)
    | cons d u =>
        rw [← long, List.prefix_append_right_inj] at starts
        obtain ⟨more, split⟩ := starts
        obtain ⟨e, q, rfl⟩ := List.exists_cons_of_ne_nil some_text
        exact apart d (by simp [← split]) (by simp [← long])

theorem forms_parameter_append (headed : HeadedBy read word) {p : ParameterForm}
    (good : p.WellFormed) (sign : isIdentifierPart c = false) (plain : isBlank c = false)
    (s : Text) : forms read (p.text ++ c :: s) = forms read s := by
  have colon : isIdentifierPart ':' = false ∧ isBlank ':' = false := ⟨rfl, rfl⟩
  simp only [ParameterForm.text, List.append_assoc, List.cons_append]
  rw [headed.forms_blank_append good.before_blank,
    headed.forms_identifier_append good.name_identifier good.beforeColon_blank colon.1 colon.2,
    headed.forms_blank_append good.afterColon_blank,
    headed.forms_identifier_append good.declaredType_identifier good.after_blank sign plain]

end HeadedBy

end Reader

namespace LetForm

theorem takes : Reader.Takes read? text :=
  fun found => ⟨by simp [text, word], (of_read? found).2⟩

theorem headed : Reader.HeadedBy read? word where
  word_part := by decide
  word_ne_nil := by decide
  starts := by
    intro s f rest found
    obtain ⟨good, split⟩ := of_read? found
    obtain ⟨c, more, name, start⟩ := good.name_identifier.exists_cons
    simp only [text, name, List.append_assoc, List.cons_append] at split
    exact ⟨f.afterLet, c, _, split, good.afterLet_ne_nil, good.afterLet_blank, start⟩

end LetForm

namespace FnForm

theorem takes : Reader.Takes read? text :=
  fun found => ⟨by simp [text, word], (of_read? found).2⟩

theorem headed : Reader.HeadedBy read? word where
  word_part := by decide
  word_ne_nil := by decide
  starts := by
    intro s f rest found
    obtain ⟨good, split⟩ := of_read? found
    obtain ⟨c, more, name, start⟩ := good.name_identifier.exists_cons
    simp only [text, name, List.append_assoc, List.cons_append] at split
    exact ⟨f.afterFn, c, _, split, good.afterFn_ne_nil, good.afterFn_blank, start⟩

end FnForm

namespace ParameterForm

theorem takes : Reader.Takes read? text := by
  intro s f rest found
  obtain ⟨good, split, -⟩ := of_read? found
  obtain ⟨c, more, name, -⟩ := good.name_identifier.exists_cons
  exact ⟨by simp [text], split⟩

end ParameterForm

theorem Parameter.listOf_eq_forms (s : Text) :
    listOf s = (Reader.forms ParameterForm.read? s).map (·.parameter) := by
  simp [listOf, ParameterForm.occurrences, Reader.forms]

theorem Declarations.ofText_eq_forms (s : Text) :
    ofText s =
      { variableTable := .ofList
          ((Reader.forms LetForm.read? s).map fun f => (f.name, f.declaration))
        functionTable := .ofList
          ((Reader.forms FnForm.read? s).map fun f => (f.name, f.declaration)) } := by
  simp [ofText, LetForm.occurrences, FnForm.occurrences, Reader.forms, Function.comp_def]

end Tron
