import Tron.Proofs.FormSearch

/-! # Parameters among other texts

A parameter has a colon, with nothing but blanks and the characters of identifiers before
it. So no parameter is read from a stretch without a colon that ends with a comma: the
comma would come before the colon. Between parameters such stretches are passed over, and
each parameter ends where the comma of the next stretch stands.
-/

namespace Tron

open Text Reader

namespace ParameterForm

/-- Neither a comma nor a further colon stands before the colon of a parameter. -/
theorem exists_of_read? {s rest : Text} {f : ParameterForm} (taken : read? s = some (f, rest)) :
    ∃ front back, s = front ++ ':' :: back ∧ ':' ∉ front ∧ ',' ∉ front := by
  obtain ⟨good, split, -⟩ := of_read? taken
  have apart : ∀ c, isBlank c = false → isIdentifierPart c = false →
      c ∉ f.before ++ (f.name ++ f.beforeColon) := by
    intro c plain sign
    simp only [List.mem_append, not_or]
    exact ⟨good.before_blank.not_mem plain, good.name_identifier.not_mem sign,
      good.beforeColon_blank.not_mem plain⟩
  refine ⟨f.before ++ (f.name ++ f.beforeColon), f.afterColon ++ (f.declaredType ++ f.after) ++ rest,
    ?_, apart ':' rfl rfl, apart ',' rfl rfl⟩
  rw [split, text]
  simp only [List.append_assoc, List.cons_append]

theorem read?_eq_none_of_bare {s : Text} (bare : ':' ∉ s) : read? s = none := by
  cases found : read? s with
  | none => rfl
  | some taken =>
      obtain ⟨front, back, rfl, -⟩ := exists_of_read? found
      exact absurd (by simp) bare

/-- A comma before any colon keeps a parameter from being read. -/
theorem read?_append_eq_none {junk : Text} (bare : ':' ∉ junk) (comma : ',' ∈ junk) (rest : Text) :
    read? (junk ++ rest) = none := by
  cases found : read? (junk ++ rest) with
  | none => rfl
  | some taken =>
      obtain ⟨front, back, split, -, noComma⟩ := exists_of_read? found
      rcases List.append_eq_append_iff.mp split with ⟨more, rfl, -⟩ | ⟨more, rfl, colon⟩
      · exact absurd (List.mem_append_left more comma) noComma
      · cases more with
        | nil => exact absurd (by simpa using comma) noComma
        | cons c more =>
            obtain ⟨rfl, -⟩ := List.cons.inj colon
            exact absurd (by simp) bare

theorem forms_of_bare {s : Text} (bare : ':' ∉ s) : forms read? s = [] := by
  have nothing : forms read? (s ++ []) = forms read? [] := by
    refine forms_append_of_silent fun q _ inside => ?_
    rw [List.append_nil]
    exact read?_eq_none_of_bare fun colon => bare (inside.subset colon)
  rw [← List.append_nil s, nothing, forms_nil]

theorem forms_junk_append {junk : Text} (bare : ':' ∉ junk) (last : junk.getLast? = some ',')
    (rest : Text) : forms read? (junk ++ rest) = forms read? rest := by
  refine forms_append_of_silent fun q some_text inside => ?_
  obtain ⟨front, rfl⟩ := inside
  obtain ⟨c, ends⟩ : ∃ c, q.getLast? = some c :=
    Option.ne_none_iff_exists'.mp (mt List.getLast?_eq_none_iff.mp some_text)
  rw [List.getLast?_append, ends, Option.some_or, ← ends] at last
  exact read?_append_eq_none (fun colon => bare (List.mem_append_right front colon))
    (List.mem_of_mem_getLast? last) rest

/-- A parameter ends before a comma, and at the end of the text. -/
theorem endsBefore_of_comma {p : ParameterForm} (good : p.WellFormed) {s : Text}
    (first : ∀ c ∈ s.head?, c = ',') : p.EndsBefore s where
  blanks := by
    intro c member
    rw [first c member]
    rfl
  type := by
    refine StopsAt.blank_append good.after_blank fun c member => ?_
    rw [first c member]
    rfl

/-- What may stand between two parameters: a comma, or a stretch without a colon from one
    comma to another. -/
structure Between (junk : Text) : Prop where
  bare : ':' ∉ junk
  first : junk.head? = some ','
  last : junk.getLast? = some ','

/-- What may stand before the first parameter: nothing, or a stretch without a colon up
    to a comma. -/
structure Leading (junk : Text) : Prop where
  bare : ':' ∉ junk
  last : ∀ c ∈ junk.getLast?, c = ','

/-- What may stand behind the last parameter: nothing, or a stretch without a colon from
    a comma on. -/
structure Trailing (junk : Text) : Prop where
  bare : ':' ∉ junk
  first : ∀ c ∈ junk.head?, c = ','

theorem Trailing.nil : Trailing [] := ⟨by simp, by simp⟩

/-- A text that is made of parameters and what may stand between them. -/
inductive Series : List ParameterForm → Text → Prop where
  | nil : Series [] []
  | single {p : ParameterForm} : p.WellFormed → Series [p] p.text
  | cons {p q : ParameterForm} {ps : List ParameterForm} {junk s : Text} : p.WellFormed →
      Between junk → Series (q :: ps) s → Series (p :: q :: ps) (p.text ++ (junk ++ s))

theorem Series.forms_append {ps : List ParameterForm} {s trail : Text} (series : Series ps s)
    (trailing : Trailing trail) : forms read? (s ++ trail) = ps := by
  induction series with
  | nil => exact forms_of_bare trailing.bare
  | single good =>
      have here := read?_text good (endsBefore_of_comma good trailing.first)
      rw [forms_of_some takes here, forms_of_bare trailing.bare]
  | @cons p q ps junk s good between _ ih =>
      have comma : ∀ c ∈ (junk ++ (s ++ trail)).head?, c = ',' := by
        intro c first
        rw [List.head?_append, between.first] at first
        exact (Option.some.inj first).symm
      have here := read?_text good (endsBefore_of_comma good comma)
      rw [List.append_assoc, List.append_assoc, forms_of_some takes here,
        forms_junk_append between.bare between.last, ih]

theorem forms_leading_append {lead : Text} (leading : Leading lead) (rest : Text) :
    forms read? (lead ++ rest) = forms read? rest := by
  cases last : lead.getLast? with
  | none => rw [List.getLast?_eq_none_iff.mp last, List.nil_append]
  | some c =>
      rw [leading.last c last] at last
      exact forms_junk_append leading.bare last rest

end ParameterForm

namespace Parameter

/-- A parameter as it is plainly written. -/
def text (p : Parameter) : Text := p.name ++ ':' :: ' ' :: p.declaredType

/-- The plain form, behind any blanks, as the form of a parameter. -/
def form (before : Text) (p : Parameter) : ParameterForm where
  before := before
  name := p.name
  beforeColon := []
  afterColon := [' ']
  declaredType := p.declaredType
  after := []

theorem wellFormed_form {p : Parameter} (name : IsIdentifier p.name)
    (type : IsIdentifier p.declaredType) {before : Text} (blank : Blank before) :
    (p.form before).WellFormed where
  before_blank := blank
  name_identifier := name
  beforeColon_blank := Blank.nil
  afterColon_blank := Blank.cons (by decide) Blank.nil
  declaredType_identifier := type
  after_blank := Blank.nil

theorem text_form (before : Text) (p : Parameter) : (p.form before).text = before ++ p.text := by
  simp [form, ParameterForm.text, text]

/-- Plainly written parameters are a series. The blank behind each comma belongs to the
    parameter that follows. -/
theorem exists_series {p : Parameter} {ps : List Parameter}
    (good : ∀ q ∈ p :: ps, IsIdentifier q.name ∧ IsIdentifier q.declaredType) {before : Text}
    (blank : Blank before) :
    ∃ f fs, (f :: fs).map ParameterForm.parameter = p :: ps ∧
      ParameterForm.Series (f :: fs) (before ++ [',', ' '].intercalate ((p :: ps).map text)) := by
  induction ps generalizing p before with
  | nil =>
      obtain ⟨name, type⟩ := good p List.mem_cons_self
      have single := ParameterForm.Series.single (wellFormed_form name type blank)
      refine ⟨p.form before, [], rfl, ?_⟩
      rw [text_form] at single
      simpa using single
  | cons q ps ih =>
      obtain ⟨⟨name, type⟩, others⟩ := List.forall_mem_cons.mp good
      have gap : Blank [' '] := by decide
      obtain ⟨f, fs, parameters, series⟩ := ih others gap
      have comma : ParameterForm.Between [','] := ⟨by decide, rfl, rfl⟩
      have further := ParameterForm.Series.cons (wellFormed_form name type blank) comma series
      refine ⟨p.form before, f :: fs, ?_, ?_⟩
      · rw [List.map_cons, parameters]
        rfl
      · rw [text_form] at further
        rw [List.map_cons, List.map_cons, List.intercalate_cons_cons]
        simpa using further

/-- From parameters with other texts around and between them, none of which has a colon
    and all of which meet the parameters with commas, just these parameters are listed, in
    order. So plainly written parameters are read back. -/
theorem listOf_series :
    (∀ lead s trail ps, ParameterForm.Leading lead → ParameterForm.Series ps s →
      ParameterForm.Trailing trail → listOf (lead ++ (s ++ trail)) = ps.map (·.parameter)) ∧
    (∀ ps : List Parameter, (∀ p ∈ ps, IsIdentifier p.name ∧ IsIdentifier p.declaredType) →
      listOf ([',', ' '].intercalate (ps.map text)) = ps) := by
  constructor
  · intro lead s trail ps leading series trailing
    rw [listOf_eq_forms, ParameterForm.forms_leading_append leading, series.forms_append trailing]
  · intro ps good
    cases ps with
    | nil => rfl
    | cons p ps =>
        obtain ⟨f, fs, parameters, series⟩ := exists_series good Blank.nil
        have found := series.forms_append ParameterForm.Trailing.nil
        rw [List.append_nil, List.nil_append] at found
        rw [listOf_eq_forms, found, parameters]

/-- The first text between parameters holds a word, the last parameter has the name of the
    first, and words stand before and behind them all. -/
theorem listOf_series_scattered :
    listOf "x y,fn, a : t ,, 9let,b:fn\t,a:u,\tz".toList =
      [⟨['a'], ['t']⟩, ⟨['b'], "fn".toList⟩, ⟨['a'], ['u']⟩] ∧
    listOf "a: t, b: fn".toList = [⟨['a'], ['t']⟩, ⟨['b'], "fn".toList⟩] := by
  obtain ⟨scattered, plain⟩ := listOf_series
  have leading : ParameterForm.Leading "x y,fn,".toList :=
    ⟨by decide, fun c last => (Option.some.inj last).symm⟩
  have trailing : ParameterForm.Trailing ",\tz".toList :=
    ⟨by decide, fun c first => (Option.some.inj first).symm⟩
  have word : ParameterForm.Between ",, 9let,".toList := ⟨by decide, rfl, rfl⟩
  have comma : ParameterForm.Between [','] := ⟨by decide, rfl, rfl⟩
  have series : ParameterForm.Series
      [⟨[' '], ['a'], [' '], [' '], ['t'], [' ']⟩, ⟨[], ['b'], [], [], "fn".toList, ['\t']⟩,
        ⟨[], ['a'], [], [], ['u'], []⟩] _ :=
    .cons (by constructor <;> decide) word
      (.cons (by constructor <;> decide) comma (.single (by constructor <;> decide)))
  have listed := plain [⟨['a'], ['t']⟩, ⟨['b'], "fn".toList⟩] (by decide)
  exact ⟨scattered _ _ _ _ leading series trailing, listed⟩

end Parameter

end Tron
