import Tron.Proofs.FormGrammar
import Tron.Proofs.TableInsertion

/-! # The occurrences of a grammar

The search from left to right finds the one list of texts of a grammar that stand
apart from each other and leave no place outside them at which another one starts.
Both sides are shown to follow the same three rules: nothing starts at the end of
the text, a place at which nothing stands is passed over, and what stands at a place
is found there and passed over as a whole.
-/

namespace Tron

open Grammar

section Search

variable {φ : Type} {read : Reader φ} {grammar : Language Char} {good : φ → Prop}
  {text : φ → Text} {s rest t u : Text} {place : Nat} {f : φ} {found : List (Occurrence φ)}

/-- The texts of a grammar that are found in a text from a place on. They stand in
    increasing order and apart from each other, each is divided into its pieces,
    and at a place outside them no text of the grammar starts. -/
structure Exhausts (grammar : Language Char) (good : φ → Prop) (text : φ → Text) (s : Text)
    (place : Nat) (found : List (Occurrence φ)) : Prop where
  behind : ∀ o ∈ found, place ≤ o.start
  stands : ∀ o ∈ found, StandsAt grammar s o.start (text o.form)
  divided : ∀ o ∈ found, good o.form
  apart : found.Pairwise fun o later => o.start + (text o.form).length ≤ later.start
  silent : ∀ p, place ≤ p →
    (∀ o ∈ found, p < o.start ∨ o.start + (text o.form).length ≤ p) →
      ∀ t, ¬ StandsAt grammar s p t

namespace Reader

/-- A reader takes exactly the texts of a grammar, and divides them into pieces. -/
structure Recognizes (read : Reader φ) (grammar : Language Char) (good : φ → Prop)
    (text : φ → Text) : Prop where
  read_iff : ∀ {s f rest}, read s = some (f, rest) ↔ good f ∧ s = text f ++ rest
  mem_iff : ∀ {t}, t ∈ grammar ↔ ∃ f, good f ∧ text f = t
  text_ne_nil : ∀ f, text f ≠ []

theorem occurrencesFrom_of_none (nothing : read (s.drop place) = none) :
    read.occurrencesFrom place 0 (s.drop place) =
      read.occurrencesFrom (place + 1) 0 (s.drop (place + 1)) := by
  rw [← List.drop_drop]
  cases behind : s.drop place with
  | nil => rfl
  | cons c more =>
      rw [behind] at nothing
      simp only [occurrencesFrom, nothing, List.drop_succ_cons, List.drop_zero]

namespace Recognizes

theorem occurrencesFrom_of_some (recognizes : Recognizes read grammar good text)
    (taken : read (s.drop place) = some (f, rest)) :
    read.occurrencesFrom place 0 (s.drop place) =
      ⟨place, f⟩ :: read.occurrencesFrom (place + (text f).length) 0
        (s.drop (place + (text f).length)) := by
  obtain ⟨-, split⟩ := recognizes.read_iff.mp taken
  obtain ⟨c, front, text_eq⟩ := List.exists_cons_of_ne_nil (recognizes.text_ne_nil f)
  rw [← List.drop_drop]
  rw [split, text_eq, List.cons_append] at taken ⊢
  have passed : (front ++ rest).length - rest.length = front.length := by
    rw [List.length_append, Nat.add_sub_cancel]
  simp only [occurrencesFrom, taken, passed]
  rw [occurrencesFrom_skip, List.length_cons, List.drop_succ_cons, Nat.add_right_comm,
    Nat.add_assoc]

theorem standsAt_iff (recognizes : Recognizes read grammar good text) :
    StandsAt grammar s place t ↔ ∃ f rest, read (s.drop place) = some (f, rest) ∧ text f = t := by
  constructor
  · intro stands
    obtain ⟨member, rest, split⟩ := stands
    obtain ⟨f, divided, rfl⟩ := recognizes.mem_iff.mp member
    exact ⟨f, rest, recognizes.read_iff.mpr ⟨divided, split.symm⟩, rfl⟩
  · intro taken
    obtain ⟨f, rest, taken, rfl⟩ := taken
    obtain ⟨divided, split⟩ := recognizes.read_iff.mp taken
    exact ⟨recognizes.mem_iff.mpr ⟨f, divided, rfl⟩, rest, split.symm⟩

/-- At a place stands at most one text of the grammar. -/
theorem standsAt_unique (recognizes : Recognizes read grammar good text)
    (first : StandsAt grammar s place t) (second : StandsAt grammar s place u) : t = u := by
  obtain ⟨f, _, taken, rfl⟩ := recognizes.standsAt_iff.mp first
  obtain ⟨g, _, taken', rfl⟩ := recognizes.standsAt_iff.mp second
  rw [taken] at taken'
  cases taken'
  rfl

theorem existsUnique_division (recognizes : Recognizes read grammar good text)
    (member : t ∈ grammar) : ∃! f, good f ∧ text f = t := by
  obtain ⟨f, divided, rfl⟩ := recognizes.mem_iff.mp member
  refine ⟨f, ⟨divided, rfl⟩, ?_⟩
  intro g other
  have first := recognizes.read_iff.mpr ⟨divided, (List.append_nil (text f)).symm⟩
  have second := recognizes.read_iff.mpr ⟨other.1, (List.append_nil (text g)).symm⟩
  rw [other.2, first] at second
  cases second
  rfl

theorem lt_length_of_standsAt (recognizes : Recognizes read grammar good text)
    (stands : StandsAt grammar s place t) : place < s.length := by
  obtain ⟨member, starts⟩ := stands
  obtain ⟨f, -, rfl⟩ := recognizes.mem_iff.mp member
  have taken := starts.length_le
  have positive := List.length_pos_of_ne_nil (recognizes.text_ne_nil f)
  rw [List.length_drop] at taken
  omega

theorem exhausts_iff_of_end (recognizes : Recognizes read grammar good text)
    (ended : s.length ≤ place) : Exhausts grammar good text s place found ↔ found = [] := by
  constructor
  · intro exhausts
    refine List.eq_nil_iff_forall_not_mem.mpr fun o member => ?_
    have inside := recognizes.lt_length_of_standsAt (exhausts.stands o member)
    have behind := exhausts.behind o member
    omega
  · intro none
    subst none
    refine ⟨by simp, by simp, by simp, List.Pairwise.nil, fun p later _ t stands => ?_⟩
    have inside := recognizes.lt_length_of_standsAt stands
    omega

theorem exhausts_iff_of_none (recognizes : Recognizes read grammar good text)
    (nothing : read (s.drop place) = none) :
    Exhausts grammar good text s place found ↔ Exhausts grammar good text s (place + 1) found := by
  have absent : ∀ t, ¬ StandsAt grammar s place t := by
    intro t stands
    obtain ⟨f, rest, taken, -⟩ := recognizes.standsAt_iff.mp stands
    simp [nothing] at taken
  constructor
  · intro exhausts
    refine { exhausts with behind := ?_, silent := ?_ }
    · intro o member
      have behind := exhausts.behind o member
      have elsewhere : o.start ≠ place := by
        intro here
        exact absent _ (here ▸ exhausts.stands o member)
      omega
    · intro p later
      exact exhausts.silent p (by omega)
  · intro exhausts
    refine { exhausts with behind := ?_, silent := ?_ }
    · intro o member
      have behind := exhausts.behind o member
      omega
    · intro p later outside
      by_cases here : p = place
      · subst here
        exact absent
      · exact exhausts.silent p (by omega) outside

/-- What stands at the place comes first, and the search goes on behind it. -/
theorem exhausts_iff_of_some (recognizes : Recognizes read grammar good text)
    (taken : read (s.drop place) = some (f, rest)) :
    Exhausts grammar good text s place found ↔
      ∃ later, found = ⟨place, f⟩ :: later ∧
        Exhausts grammar good text s (place + (text f).length) later := by
  obtain ⟨divided, split⟩ := recognizes.read_iff.mp taken
  have here : StandsAt grammar s place (text f) :=
    recognizes.standsAt_iff.mpr ⟨f, rest, taken, rfl⟩
  have positive := List.length_pos_of_ne_nil (recognizes.text_ne_nil f)
  constructor
  · intro exhausts
    cases found with
    | nil => exact absurd here (exhausts.silent place le_rfl (by simp) _)
    | cons o later =>
        obtain ⟨apart, rests⟩ := List.pairwise_cons.mp exhausts.apart
        have first := exhausts.behind o List.mem_cons_self
        -- no later text covers the place, so the first one does
        have start_eq : o.start = place := by
          by_contra elsewhere
          refine exhausts.silent place le_rfl (fun other member => Or.inl ?_) _ here
          rcases List.mem_cons.mp member with rfl | member
          · omega
          · have behind := apart other member
            omega
        have form_eq : o.form = f := by
          have stands := exhausts.stands o List.mem_cons_self
          rw [start_eq] at stands
          have own := exhausts.divided o List.mem_cons_self
          have same := recognizes.standsAt_unique stands here
          exact (recognizes.existsUnique_division here.1).unique ⟨own, same⟩ ⟨divided, rfl⟩
        obtain ⟨start, form⟩ := o
        subst start_eq form_eq
        refine ⟨later, rfl, ⟨apart, ?_, ?_, rests, ?_⟩⟩
        · exact fun other member => exhausts.stands other (List.mem_cons_of_mem _ member)
        · exact fun other member => exhausts.divided other (List.mem_cons_of_mem _ member)
        · intro p behind outside
          refine exhausts.silent p (le_trans (Nat.le_add_right _ _) behind) ?_
          exact List.forall_mem_cons.mpr ⟨Or.inr behind, outside⟩
  · intro exhausts
    obtain ⟨later, rfl, exhausts⟩ := exhausts
    constructor
    case behind =>
      refine List.forall_mem_cons.mpr ⟨le_rfl, fun other member => ?_⟩
      have behind := exhausts.behind other member
      omega
    case stands => exact List.forall_mem_cons.mpr ⟨here, exhausts.stands⟩
    case divided => exact List.forall_mem_cons.mpr ⟨divided, exhausts.divided⟩
    case apart => exact List.pairwise_cons.mpr ⟨exhausts.behind, exhausts.apart⟩
    case silent =>
      intro p _ outside
      obtain ⟨first, others⟩ := List.forall_mem_cons.mp outside
      refine exhausts.silent p ?_ others
      simp only at first
      omega

/-- The search finds the one list that exhausts a text. -/
theorem exhausts_iff (recognizes : Recognizes read grammar good text) {place : Nat}
    {found : List (Occurrence φ)} : Exhausts grammar good text s place found ↔
      found = read.occurrencesFrom place 0 (s.drop place) := by
  by_cases ended : s.length ≤ place
  · rw [recognizes.exhausts_iff_of_end ended, List.drop_eq_nil_of_le ended, occurrencesFrom]
  · cases taken : read (s.drop place) with
    | none =>
        rw [recognizes.exhausts_iff_of_none taken, occurrencesFrom_of_none taken]
        exact exhausts_iff recognizes
    | some pair =>
        obtain ⟨f, rest⟩ := pair
        have positive := List.length_pos_of_ne_nil (recognizes.text_ne_nil f)
        rw [recognizes.exhausts_iff_of_some taken, recognizes.occurrencesFrom_of_some taken]
        constructor
        · intro split
          obtain ⟨later, rfl, exhausts⟩ := split
          rw [(exhausts_iff recognizes).mp exhausts]
        · intro same
          exact ⟨_, same, (exhausts_iff recognizes).mpr rfl⟩
termination_by s.length - place
decreasing_by all_goals omega

end Recognizes

end Reader

end Search

theorem LetForm.recognizes : Reader.Recognizes read? grammar WellFormed text where
  read_iff := read?_eq_some_iff
  mem_iff := mem_grammar_iff
  text_ne_nil := by simp [text, word]

theorem FnForm.recognizes : Reader.Recognizes read? grammar WellFormed text where
  read_iff := read?_eq_some_iff
  mem_iff := mem_grammar_iff
  text_ne_nil := by simp [text, word]

namespace Declarations

/-- At a place stands at most one variable declaration, which has one division with
    no blanks counted to the initializer. The declarations found in a text are the
    one list that exhausts it, and the variables are the records of these divisions,
    inserted one after another. -/
theorem variables_of_grammar (s : Text) :
    (∀ place t u, StandsAt LetForm.grammar s place t → StandsAt LetForm.grammar s place u →
      t = u) ∧
    (∀ t ∈ LetForm.grammar, ∃! f : LetForm, f.WellFormed ∧ f.text = t) ∧
    (∀ found, Exhausts LetForm.grammar LetForm.WellFormed LetForm.text s 0 found ↔
      found = LetForm.occurrences s) ∧
    (ofText s).variableTable.InsertedFrom ((LetForm.occurrences s).map fun o =>
      (o.form.name, ⟨o.form.text, o.form.declaredType, o.form.initializer⟩)) := by
  refine ⟨fun _ _ _ => LetForm.recognizes.standsAt_unique, ?_, ?_, ?_⟩
  · intro t member
    exact LetForm.recognizes.existsUnique_division member
  · intro found
    exact LetForm.recognizes.exhausts_iff
  · exact Table.insertedFrom_ofList _

/-- A declaration within the first initializer does not count, and one behind it does
    although its word is the end of another. -/
theorem variables_of_grammar_nested :
    let s := "let x : t = let y:u=1;outlet x:v= \n2;let z:w".toList
    (LetForm.occurrences s).map (·.start) = [0, 25] ∧
    StandsAt LetForm.grammar s 12 "let y:u=1;".toList ∧
    (∀ t, ¬ StandsAt LetForm.grammar s 37 t) ∧
    (ofText s).variableTable.get? ['x'] =
      some ⟨"let x:v= \n2;".toList, ['v'], ['2']⟩ := by
  intro s
  obtain ⟨-, -, exhausts, inserted⟩ := variables_of_grammar s
  have found := (exhausts _).mpr rfl
  refine ⟨by decide, ⟨?_, by decide⟩, ?_, ?_⟩
  · refine LetForm.mem_grammar_iff.mpr ⟨⟨[' '], ['y'], [], [], ['u'], [], [], ['1']⟩, ?_, rfl⟩
    constructor
    case initializer_open =>
      intro c first
      obtain rfl : '1' = c := Option.some.inj first
      decide
    all_goals decide
  · exact found.silent 37 (by omega) (by decide)
  · exact (inserted.value _ _).mpr ⟨[_], [], rfl, by simp⟩

/-- At a place stands at most one function declaration, which has one division. The
    declarations found in a text are the one list that exhausts it, and the functions
    are the records of these divisions, inserted one after another. -/
theorem functions_of_grammar (s : Text) :
    (∀ place t u, StandsAt FnForm.grammar s place t → StandsAt FnForm.grammar s place u →
      t = u) ∧
    (∀ t ∈ FnForm.grammar, ∃! f : FnForm, f.WellFormed ∧ f.text = t) ∧
    (∀ found, Exhausts FnForm.grammar FnForm.WellFormed FnForm.text s 0 found ↔
      found = FnForm.occurrences s) ∧
    (ofText s).functionTable.InsertedFrom ((FnForm.occurrences s).map fun o =>
      (o.form.name, ⟨o.form.text, Parameter.listOf o.form.parameters, o.form.returnType⟩)) := by
  refine ⟨fun _ _ _ => FnForm.recognizes.standsAt_unique, ?_, ?_, ?_⟩
  · intro t member
    exact FnForm.recognizes.existsUnique_division member
  · intro found
    exact FnForm.recognizes.exhausts_iff
  · exact Table.insertedFrom_ofList _

/-- A header that fails hides none that starts within it, and parameters reach up to
    the first parenthesis, over a further declaration. -/
theorem functions_of_grammar_nested :
    let s := "fn fn f(a:t, fn g(b:u): t \x7b \x7b \x7d \x7dfn f(p:v, q : w):u\x7b\x7d".toList
    (FnForm.occurrences s).map (·.start) = [3, 33] ∧
    StandsAt FnForm.grammar s 13 "fn g(b:u): t \x7b \x7b \x7d".toList ∧
    (∀ t, ¬ StandsAt FnForm.grammar s 0 t) ∧
    (ofText s).functionTable.get? ['f'] =
      some ⟨"fn f(p:v, q : w):u\x7b\x7d".toList, [⟨['p'], ['v']⟩, ⟨['q'], ['w']⟩], ['u']⟩ := by
  intro s
  obtain ⟨-, -, exhausts, inserted⟩ := functions_of_grammar s
  have found := (exhausts _).mpr rfl
  refine ⟨by decide, ⟨?_, by decide⟩, ?_, ?_⟩
  · refine FnForm.mem_grammar_iff.mpr ⟨⟨[' '], ['g'], [], "b:u".toList, [], [' '], ['t'], [' '],
      " \x7b ".toList⟩, ?_, rfl⟩
    constructor
    all_goals decide
  · exact found.silent 0 (by omega) (by decide)
  · exact (inserted.value _ _).mpr ⟨[_], [], rfl, by simp⟩

end Declarations

end Tron
