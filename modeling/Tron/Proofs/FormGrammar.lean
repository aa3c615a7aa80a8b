import Mathlib.Computability.Language
import Tron.Proofs.FormSearch

/-! # The grammar of declarations

The texts that are declarations, as products of languages: one text of each piece
after another. The grammar knows nothing of readers and of where a piece is cut off.
Yet a text has at most one declaration of a kind at a place, and a declaration has
exactly one division into pieces, once the blanks before an initializer are not
counted to it.
-/

namespace Tron

open Text

namespace Grammar

def exactly (t : Text) : Language Char := {u | u = t}

def blank : Language Char := {w | Blank w}

def someBlank : Language Char := {w | w ≠ [] ∧ Blank w}

def identifier : Language Char := {name | IsIdentifier name}

def without (stop : Char) : Language Char := {t | stop ∉ t}

theorem append_mem {m : Language Char} {t : Text} (front : Text) (rest : t ∈ m) :
    front ++ t ∈ exactly front * m :=
  Language.append_mem_mul (show front ∈ exactly front from rfl) rest

theorem cons_mem {m : Language Char} {t : Text} (c : Char) (rest : t ∈ m) :
    c :: t ∈ exactly [c] * m :=
  append_mem [c] rest

/-- A text of the grammar starts at a place of another text. -/
def StandsAt (grammar : Language Char) (s : Text) (place : Nat) (t : Text) : Prop :=
  t ∈ grammar ∧ t <+: s.drop place

end Grammar

open Grammar

/-- `let name : type = initializer ;`. The initializer may start with blanks. -/
def LetForm.grammar : Language Char :=
  exactly LetForm.word * someBlank * identifier * blank * exactly [':'] * blank * identifier *
    blank * exactly ['='] * blank * without ';' * exactly [';']

/-- `fn name ( parameters ) : type { body }`. -/
def FnForm.grammar : Language Char :=
  exactly FnForm.word * someBlank * identifier * blank * exactly ['('] * without ')' *
    exactly [')'] * blank * exactly [':'] * blank * identifier * blank * exactly ['{'] *
    without '}' * exactly ['}']

theorem LetForm.text_mem_grammar {f : LetForm} (good : f.WellFormed) : f.text ∈ grammar := by
  have gap : f.afterLet ∈ someBlank := ⟨good.afterLet_ne_nil, good.afterLet_blank⟩
  simp only [grammar, mul_assoc, text]
  apply append_mem word
  apply Language.append_mem_mul gap
  apply Language.append_mem_mul good.name_identifier
  apply Language.append_mem_mul good.beforeColon_blank
  apply cons_mem
  apply Language.append_mem_mul good.afterColon_blank
  apply Language.append_mem_mul good.declaredType_identifier
  apply Language.append_mem_mul good.beforeEquals_blank
  apply cons_mem
  apply Language.append_mem_mul good.afterEquals_blank
  exact Language.append_mem_mul good.initializer_closed rfl

/-- Blanks that the grammar counts to an initializer belong before it. -/
theorem LetForm.exists_of_mem_grammar {t : Text} (inside : t ∈ grammar) :
    ∃ f : LetForm, f.WellFormed ∧ f.text = t := by
  simp only [grammar, mul_assoc] at inside
  obtain ⟨_, rfl, _, rest₁, rfl⟩ := Language.mem_mul.mp inside
  obtain ⟨afterLet, ⟨some_blank, blank₁⟩, _, rest₂, rfl⟩ := Language.mem_mul.mp rest₁
  obtain ⟨name, name_identifier, _, rest₃, rfl⟩ := Language.mem_mul.mp rest₂
  obtain ⟨beforeColon, blank₂, _, rest₄, rfl⟩ := Language.mem_mul.mp rest₃
  obtain ⟨_, rfl, _, rest₅, rfl⟩ := Language.mem_mul.mp rest₄
  obtain ⟨afterColon, blank₃, _, rest₆, rfl⟩ := Language.mem_mul.mp rest₅
  obtain ⟨declaredType, type_identifier, _, rest₇, rfl⟩ := Language.mem_mul.mp rest₆
  obtain ⟨beforeEquals, blank₄, _, rest₈, rfl⟩ := Language.mem_mul.mp rest₇
  obtain ⟨_, rfl, _, rest₉, rfl⟩ := Language.mem_mul.mp rest₈
  obtain ⟨afterEquals, blank₅, _, rest₁₀, rfl⟩ := Language.mem_mul.mp rest₉
  obtain ⟨initializer, closed, _, rfl, rfl⟩ := Language.mem_mul.mp rest₁₀
  have split := blanks_append initializer
  refine ⟨⟨afterLet, name, beforeColon, afterColon, declaredType, beforeEquals,
    afterEquals ++ (blanks initializer).1, (blanks initializer).2⟩, ?_, ?_⟩
  · constructor
    case initializer_open => exact blanks_stopsAt initializer
    case initializer_closed =>
      intro member
      apply closed
      rw [← split]
      exact List.mem_append_right _ member
    case afterEquals_blank => exact Blank.append blank₅ (blank_blanks initializer)
    all_goals assumption
  · have joined : (blanks initializer).1 ++ ((blanks initializer).2 ++ [';']) =
        initializer ++ [';'] := by
      rw [← List.append_assoc, split]
    simp only [text, List.append_assoc, joined]
    rfl

theorem LetForm.mem_grammar_iff {t : Text} :
    t ∈ grammar ↔ ∃ f : LetForm, f.WellFormed ∧ f.text = t := by
  constructor
  · exact exists_of_mem_grammar
  · intro divided
    obtain ⟨f, good, rfl⟩ := divided
    exact text_mem_grammar good

theorem FnForm.text_mem_grammar {f : FnForm} (good : f.WellFormed) : f.text ∈ grammar := by
  have gap : f.afterFn ∈ someBlank := ⟨good.afterFn_ne_nil, good.afterFn_blank⟩
  simp only [grammar, mul_assoc, text]
  apply append_mem word
  apply Language.append_mem_mul gap
  apply Language.append_mem_mul good.name_identifier
  apply Language.append_mem_mul good.beforeParameters_blank
  apply cons_mem
  apply Language.append_mem_mul good.parameters_closed
  apply cons_mem
  apply Language.append_mem_mul good.beforeColon_blank
  apply cons_mem
  apply Language.append_mem_mul good.afterColon_blank
  apply Language.append_mem_mul good.returnType_identifier
  apply Language.append_mem_mul good.beforeBody_blank
  apply cons_mem
  exact Language.append_mem_mul good.body_closed rfl

theorem FnForm.exists_of_mem_grammar {t : Text} (inside : t ∈ grammar) :
    ∃ f : FnForm, f.WellFormed ∧ f.text = t := by
  simp only [grammar, mul_assoc] at inside
  obtain ⟨_, rfl, _, rest₁, rfl⟩ := Language.mem_mul.mp inside
  obtain ⟨afterFn, ⟨some_blank, blank₁⟩, _, rest₂, rfl⟩ := Language.mem_mul.mp rest₁
  obtain ⟨name, name_identifier, _, rest₃, rfl⟩ := Language.mem_mul.mp rest₂
  obtain ⟨beforeParameters, blank₂, _, rest₄, rfl⟩ := Language.mem_mul.mp rest₃
  obtain ⟨_, rfl, _, rest₅, rfl⟩ := Language.mem_mul.mp rest₄
  obtain ⟨parameters, parameters_closed, _, rest₆, rfl⟩ := Language.mem_mul.mp rest₅
  obtain ⟨_, rfl, _, rest₇, rfl⟩ := Language.mem_mul.mp rest₆
  obtain ⟨beforeColon, blank₃, _, rest₈, rfl⟩ := Language.mem_mul.mp rest₇
  obtain ⟨_, rfl, _, rest₉, rfl⟩ := Language.mem_mul.mp rest₈
  obtain ⟨afterColon, blank₄, _, rest₁₀, rfl⟩ := Language.mem_mul.mp rest₉
  obtain ⟨returnType, type_identifier, _, rest₁₁, rfl⟩ := Language.mem_mul.mp rest₁₀
  obtain ⟨beforeBody, blank₅, _, rest₁₂, rfl⟩ := Language.mem_mul.mp rest₁₁
  obtain ⟨_, rfl, _, rest₁₃, rfl⟩ := Language.mem_mul.mp rest₁₂
  obtain ⟨body, body_closed, _, rfl, rfl⟩ := Language.mem_mul.mp rest₁₃
  refine ⟨⟨afterFn, name, beforeParameters, parameters, beforeColon, afterColon, returnType,
    beforeBody, body⟩, ?_, rfl⟩
  constructor
  all_goals assumption

theorem FnForm.mem_grammar_iff {t : Text} :
    t ∈ grammar ↔ ∃ f : FnForm, f.WellFormed ∧ f.text = t := by
  constructor
  · exact exists_of_mem_grammar
  · intro divided
    obtain ⟨f, good, rfl⟩ := divided
    exact text_mem_grammar good

end Tron
