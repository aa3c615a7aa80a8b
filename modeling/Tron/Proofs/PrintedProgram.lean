import Tron.Proofs.ParameterSeries
import Tron.Proofs.TableInsertion

/-! # Scanning a printed program

A program is printed item by item, with any blanks inside an item and any text
around it that holds neither word. The search for one kind of declaration stops
at the items of that kind and passes over everything else, the items of the
other kind included, so that scanning gives back the items and nothing more.
-/

namespace Tron

open Text Reader

namespace ParameterForm

/-- A printed parameter list: parameters with single commas between them, or
    blanks alone if there are none. -/
def Lists : List ParameterForm → Text → Prop
  | [], s => Blank s
  | p :: ps, s =>
      (∀ q ∈ p :: ps, q.WellFormed) ∧ s = [','].intercalate ((p :: ps).map text)

theorem Lists.cons_cons {p q : ParameterForm} {ps : List ParameterForm} {s : Text}
    (listed : Lists (p :: q :: ps) s) :
    p.WellFormed ∧ ∃ more, Lists (q :: ps) more ∧ s = p.text ++ ',' :: more := by
  obtain ⟨good, rfl⟩ := listed
  refine ⟨good p List.mem_cons_self, _, ⟨fun r member => ?_, rfl⟩, ?_⟩
  · exact good r (List.mem_cons_of_mem p member)
  · simp [List.intercalate_cons_cons]

theorem Lists.singleton {p : ParameterForm} {s : Text} (listed : Lists [p] s) :
    p.WellFormed ∧ s = p.text := by
  obtain ⟨good, rfl⟩ := listed
  exact ⟨good p List.mem_cons_self, by simp⟩

theorem closed {p : ParameterForm} (good : p.WellFormed) : ')' ∉ p.text := by
  have paren : isBlank ')' = false ∧ isIdentifierPart ')' = false := ⟨rfl, rfl⟩
  simp only [text, List.mem_append, List.mem_cons, not_or]
  exact ⟨good.before_blank.not_mem paren.1, good.name_identifier.not_mem paren.2,
    good.beforeColon_blank.not_mem paren.1, by decide, good.afterColon_blank.not_mem paren.1,
    good.declaredType_identifier.not_mem paren.2, good.after_blank.not_mem paren.1⟩

theorem Lists.closed {ps : List ParameterForm} {s : Text} (listed : Lists ps s) : ')' ∉ s := by
  induction ps generalizing s with
  | nil => exact fun member => absurd (listed _ member) (by decide)
  | cons p ps ih =>
      cases ps with
      | nil =>
          obtain ⟨good, rfl⟩ := listed.singleton
          exact ParameterForm.closed good
      | cons q ps =>
          obtain ⟨good, more, others, rfl⟩ := listed.cons_cons
          simp [ParameterForm.closed good, ih others]

theorem Lists.series {p : ParameterForm} {ps : List ParameterForm} {s : Text}
    (listed : Lists (p :: ps) s) : Series (p :: ps) s := by
  induction ps generalizing p s with
  | nil =>
      obtain ⟨good, rfl⟩ := listed.singleton
      exact .single good
  | cons q ps ih =>
      obtain ⟨good, more, others, rfl⟩ := listed.cons_cons
      have comma : Between [','] := ⟨by decide, rfl, rfl⟩
      exact .cons good comma (ih others)

theorem forms_of_lists {ps : List ParameterForm} {s : Text} (listed : Lists ps s) :
    forms read? s = ps := by
  cases ps with
  | nil => exact forms_of_bare (Blank.not_mem listed rfl)
  | cons p ps =>
      have found := listed.series.forms_append Trailing.nil
      rwa [List.append_nil] at found

end ParameterForm

section Searching

variable {φ : Type} {read : Reader φ} {word : Text}

theorem Reader.HeadedBy.forms_lists_append (headed : HeadedBy read word) {ps : List ParameterForm}
    {s : Text} (listed : ParameterForm.Lists ps s) (rest : Text) :
    forms read (s ++ ')' :: rest) = forms read rest := by
  have close : isIdentifierPart ')' = false ∧ isBlank ')' = false := ⟨rfl, rfl⟩
  have comma : isIdentifierPart ',' = false ∧ isBlank ',' = false := ⟨rfl, rfl⟩
  induction ps generalizing s with
  | nil => rw [headed.forms_blank_append listed, headed.forms_sign_cons close.1]
  | cons p ps ih =>
      cases ps with
      | nil =>
          obtain ⟨good, rfl⟩ := listed.singleton
          exact headed.forms_parameter_append good close.1 close.2 rest
      | cons q ps =>
          obtain ⟨good, more, others, rfl⟩ := listed.cons_cons
          rw [List.append_assoc, List.cons_append,
            headed.forms_parameter_append good comma.1 comma.2, ih others]

end Searching

/-- A printed declaration. A function comes with the parameters that its
    parameter list prints. -/
inductive Item where
  | ofLet (form : LetForm)
  | ofFn (form : FnForm) (parameters : List ParameterForm)
  deriving Repr, DecidableEq

namespace Item

def text : Item → Text
  | ofLet form => form.text
  | ofFn form _ => form.text

/-- The pieces make a declaration, and what runs on to the first `;` or `}` does
    not hold the word of the other kind. The parameter list is judged by the
    parameters it prints, so the other pieces are taken without it. -/
def Printable : Item → Prop
  | ofLet form => form.WellFormed ∧ ¬ FnForm.word <:+: form.initializer
  | ofFn form parameters =>
      { form with parameters := [] : FnForm }.WellFormed ∧
        ParameterForm.Lists parameters form.parameters ∧ ¬ LetForm.word <:+: form.body

def letRecord? : Item → Option (Text × VariableDeclaration)
  | ofLet form => some (form.name, ⟨form.text, form.declaredType, form.initializer⟩)
  | ofFn _ _ => none

def fnRecord? : Item → Option (Text × FunctionDeclaration)
  | ofLet _ => none
  | ofFn form parameters =>
      some (form.name, ⟨form.text, parameters.map (·.parameter), form.returnType⟩)

variable {form : FnForm} {parameters : List ParameterForm}

theorem Printable.wellFormed (printable : (ofFn form parameters).Printable) :
    form.WellFormed := by
  obtain ⟨pieces, listed, -⟩ := printable
  exact { pieces with parameters_closed := listed.closed }

theorem Printable.fnRecord?_eq (printable : (ofFn form parameters).Printable) :
    (ofFn form parameters).fnRecord? = some (form.name, form.declaration) := by
  obtain ⟨-, listed, -⟩ := printable
  simp only [fnRecord?, FnForm.declaration, Parameter.listOf_eq_forms,
    ParameterForm.forms_of_lists listed]

end Item

theorem LetForm.forms_function_append {form : FnForm} {parameters : List ParameterForm}
    (printable : (Item.ofFn form parameters).Printable) (rest : Text) :
    forms LetForm.read? (form.text ++ rest) = forms LetForm.read? rest := by
  obtain ⟨pieces, listed, quiet⟩ := printable
  have paren : isIdentifierPart '(' = false ∧ isBlank '(' = false := ⟨rfl, rfl⟩
  have brace : isIdentifierPart '{' = false ∧ isBlank '{' = false := ⟨rfl, rfl⟩
  simp only [FnForm.text, FnForm.word, List.append_assoc, List.cons_append, List.nil_append]
  rw [headed.forms_cons (c := 'f') (by decide), headed.forms_cons (c := 'n') (by decide),
    headed.forms_blank_append pieces.afterFn_blank,
    headed.forms_identifier_append pieces.name_identifier pieces.beforeParameters_blank
      paren.1 paren.2,
    headed.forms_lists_append listed, headed.forms_blank_append pieces.beforeColon_blank,
    headed.forms_sign_cons (c := ':') (by decide),
    headed.forms_blank_append pieces.afterColon_blank,
    headed.forms_identifier_append pieces.returnType_identifier pieces.beforeBody_blank
      brace.1 brace.2,
    headed.forms_append_of_not_infix quiet (by simp [word]),
    headed.forms_sign_cons (c := '}') (by decide)]

theorem FnForm.forms_variable_append {form : LetForm} (printable : (Item.ofLet form).Printable)
    (rest : Text) : forms FnForm.read? (form.text ++ rest) = forms FnForm.read? rest := by
  obtain ⟨pieces, quiet⟩ := printable
  have colon : isIdentifierPart ':' = false ∧ isBlank ':' = false := ⟨rfl, rfl⟩
  have equals : isIdentifierPart '=' = false ∧ isBlank '=' = false := ⟨rfl, rfl⟩
  simp only [LetForm.text, LetForm.word, List.append_assoc, List.cons_append, List.nil_append]
  rw [headed.forms_cons (c := 'l') (by decide), headed.forms_cons (c := 'e') (by decide),
    headed.forms_cons (c := 't') (by decide), headed.forms_blank_append pieces.afterLet_blank,
    headed.forms_identifier_append pieces.name_identifier pieces.beforeColon_blank
      colon.1 colon.2,
    headed.forms_blank_append pieces.afterColon_blank,
    headed.forms_identifier_append pieces.declaredType_identifier pieces.beforeEquals_blank
      equals.1 equals.2,
    headed.forms_blank_append pieces.afterEquals_blank,
    headed.forms_append_of_not_infix quiet (by simp [word]),
    headed.forms_sign_cons (c := ';') (by decide)]

/-- Neither word occurs in the text. -/
def Quiet (s : Text) : Prop := ¬ LetForm.word <:+: s ∧ ¬ FnForm.word <:+: s

instance (s : Text) : Decidable (Quiet s) := inferInstanceAs (Decidable (_ ∧ _))

/-- A program as it is printed: each item after the text before it, and a text
    at the end. -/
def printed (ending : Text) : List (Text × Item) → Text
  | [] => ending
  | (gap, item) :: program => gap ++ (item.text ++ printed ending program)

section Programs

variable {ending : Text} {program : List (Text × Item)}

/-- An item starts with a character that completes neither word. -/
theorem Item.apart (item : Item) (rest : Text) :
    ∀ c ∈ (item.text ++ rest).head?, c ∉ LetForm.word.tail ∧ c ∉ FnForm.word.tail := by
  intro c first
  cases item with
  | ofLet form =>
      obtain rfl : 'l' = c := Option.some.inj first
      decide
  | ofFn form parameters =>
      obtain rfl : 'f' = c := Option.some.inj first
      decide

/-- What a search finds in a program is what it finds in the items, one after
    another. -/
theorem Reader.HeadedBy.forms_printed {φ ρ : Type} {read : Reader φ} {word : Text} {record : φ → ρ}
    {pick : Item → Option ρ} (headed : HeadedBy read word) (quiet : ¬ word <:+: ending)
    (gaps : ∀ e ∈ program, ¬ word <:+: e.1)
    (apart : ∀ (item : Item) (rest : Text), ∀ c ∈ (item.text ++ rest).head?, c ∉ word.tail)
    (reads : ∀ e ∈ program, ∀ rest, (forms read (e.2.text ++ rest)).map record =
      (pick e.2).toList ++ (forms read rest).map record) :
    (forms read (printed ending program)).map record = program.filterMap (pick ·.2) := by
  induction program with
  | nil =>
      have nothing : forms read (ending ++ []) = forms read [] :=
        headed.forms_append_of_not_infix quiet (by simp)
      rw [List.append_nil, forms_nil] at nothing
      simp [printed, nothing]
  | cons e program ih =>
      have later := ih (fun e member => gaps e (List.mem_cons_of_mem _ member))
        (fun e member => reads e (List.mem_cons_of_mem _ member))
      have here := reads e List.mem_cons_self (printed ending program)
      rw [printed, headed.forms_append_of_not_infix (gaps e List.mem_cons_self) (apart _ _), here,
        later]
      cases found : pick e.2 <;> simp [found]

variable (quiet : Quiet ending) (printable : ∀ e ∈ program, Quiet e.1 ∧ e.2.Printable)
include quiet printable

theorem LetForm.forms_printed :
    (forms LetForm.read? (printed ending program)).map (fun f => (f.name, f.declaration)) =
      program.filterMap fun e => e.2.letRecord? := by
  refine headed.forms_printed quiet.1 (fun e member => (printable e member).1.1)
    (fun item rest c first => (item.apart rest c first).1) fun e member rest => ?_
  obtain ⟨gap, item⟩ := e
  obtain ⟨-, here⟩ := printable _ member
  cases item with
  | ofLet form =>
      rw [Item.text, forms_of_some takes (read?_text here.1 rest), List.map_cons]
      rfl
  | ofFn form parameters =>
      rw [Item.text, forms_function_append here]
      rfl

theorem FnForm.forms_printed :
    (forms FnForm.read? (printed ending program)).map (fun f => (f.name, f.declaration)) =
      program.filterMap fun e => e.2.fnRecord? := by
  refine headed.forms_printed quiet.2 (fun e member => (printable e member).1.2)
    (fun item rest c first => (item.apart rest c first).2) fun e member rest => ?_
  obtain ⟨gap, item⟩ := e
  obtain ⟨-, here⟩ := printable _ member
  cases item with
  | ofLet form =>
      rw [Item.text, forms_variable_append here]
      rfl
  | ofFn form parameters =>
      rw [Item.text, forms_of_some takes (read?_text here.wellFormed rest), List.map_cons,
        here.fnRecord?_eq]
      rfl

/-- Scanning a printed program gives the records of its items, inserted in
    textual order, and nothing else. A repeated name keeps its first place and takes
    its last record. -/
theorem Declarations.ofText_printed :
    (ofText (printed ending program)).variableTable.InsertedFrom
        (program.filterMap fun e => e.2.letRecord?) ∧
      (ofText (printed ending program)).functionTable.InsertedFrom
        (program.filterMap fun e => e.2.fnRecord?) := by
  rw [ofText_eq_forms, LetForm.forms_printed quiet printable, FnForm.forms_printed quiet printable]
  exact ⟨Table.insertedFrom_ofList _, Table.insertedFrom_ofList _⟩

end Programs

/-- A program of `let outlet: t = 1;`, `fn letfn( a : t ,b:fn): t {fn}` and
    `let outlet:u=;`, with a line break before the first and `le` before the second. -/
def outlets : List (Text × Item) :=
  let pairs : List ParameterForm :=
    [⟨[' '], ['a'], [' '], [' '], ['t'], [' ']⟩, ⟨[], ['b'], [], [], "fn".toList, []⟩]
  [ (['\n'], .ofLet ⟨[' '], "outlet".toList, [], [' '], ['t'], [' '], [' '], ['1']⟩),
    ("le".toList, .ofFn
      ⟨[' '], "letfn".toList, [], " a : t ,b:fn".toList, [], [' '], ['t'], [' '], "fn".toList⟩
      pairs),
    ([], .ofLet ⟨[' '], "outlet".toList, [], [], ['u'], [], [], []⟩) ]

theorem Declarations.ofText_outlets :
    (∀ e ∈ outlets, Quiet e.1 ∧ e.2.Printable) ∧
      (ofText (printed ['f'] outlets)).variableTable.entries =
        [("outlet".toList, ⟨"let outlet:u=;".toList, ['u'], []⟩)] ∧
      (ofText (printed ['f'] outlets)).functionTable.values.map (·.parameters) =
        [[⟨['a'], ['t']⟩, ⟨['b'], "fn".toList⟩]] := by
  have printable : ∀ e ∈ outlets, Quiet e.1 ∧ e.2.Printable := by
    simp only [outlets, List.forall_mem_cons]
    refine ⟨⟨by decide, ?_, by decide⟩, ⟨by decide, ?_, ⟨?_, by decide⟩, by decide⟩,
      ⟨by decide, ?_, by decide⟩, by simp⟩
    · constructor
      case initializer_open =>
        intro c first
        obtain rfl : '1' = c := Option.some.inj first
        decide
      all_goals decide
    · constructor <;> decide
    · simp only [List.forall_mem_cons]
      refine ⟨?_, ?_, by simp⟩ <;> constructor <;> decide
    · constructor
      case initializer_open => exact fun c first => nomatch first
      all_goals decide
  have quiet : Quiet ['f'] := by decide
  obtain ⟨variableEntries, functionEntries⟩ := ofText_printed quiet printable
  refine ⟨printable, ?_, ?_⟩
  · rw [variableEntries.eq_ofList]
    decide
  · rw [functionEntries.eq_ofList]
    decide

end Tron
