import Tron.Proofs.FormRespacing
import Tron.Proofs.LayoutNormal

/-! # Scanning a laid out text

Laying out a text changes the blanks at the ends of its lines, and its line
breaks, which are blank as well. So a layout is a respacing of its document, but
for the blanks before the first word, and declares the same.
-/

namespace Tron

open Text

namespace Layout

theorem exists_indented (depth : Nat) (line : Text) :
    ∃ w, Blank w ∧ indented depth line = w ++ line := by
  unfold indented
  split
  · next empty => exact ⟨[], Blank.nil, (List.isEmpty_iff.mp empty).symm⟩
  · exact ⟨indentation depth, indentation_blank depth, rfl⟩

theorem joinLines_arrange_cons (depth : Nat) (line rest : Text) :
    joinLines (arrange depth (line :: trimmedLines rest)) =
      indented (min depth (depthAfter depth line)) line ++
        '\n' :: joinLines (arrange (depthAfter depth line) (trimmedLines rest)) := by
  obtain ⟨next, more, cut⟩ := List.exists_cons_of_ne_nil (trimmedLines_ne_nil rest)
  simp only [cut, arrange, joinLines]

/-- Lines arranged from any depth are a respacing of the text that they are the
    lines of, but for the blanks at the front. -/
theorem exists_respaced (depth : Nat) (s : Text) :
    ∃ w a v b, Blank w ∧ Blank v ∧ s = w ++ a ∧
      joinLines (arrange depth (trimmedLines s)) = v ++ b ∧ Respaced a b := by
  rcases lines_cases s with ⟨-, cut⟩ | ⟨line, lineBreak, rest, isBreak, -, split, cut⟩
  · obtain ⟨w, v, before, after, whole⟩ := exists_eq_trim s
    obtain ⟨margin, blank, indent⟩ :=
      exists_indented (min depth (depthAfter depth (trim s))) (trim s)
    refine ⟨w, trim s ++ v, margin, trim s ++ [], before, blank, whole, ?_, ?_⟩
    · simp [trimmedLines, cut, arrange, joinLines, indent]
    · exact Respaced.append_left (trim s) (.ending after Blank.nil)
  · have shorter : rest.length < s.length := split ▸ isBreak.length_lt line rest
    obtain ⟨w, v, before, after, whole⟩ := exists_eq_trim line
    obtain ⟨margin, blank, indent⟩ :=
      exists_indented (min depth (depthAfter depth (trim line))) (trim line)
    obtain ⟨w', a, v', b, left, right, rfl, arranged, same⟩ :=
      exists_respaced (depthAfter depth (trim line)) rest
    -- the end of this line, its break and the start of the next are one gap
    have spaces : Gap (v ++ (lineBreak ++ w')) ('\n' :: v') :=
      { left := after.append (isBreak.blank.append left)
        right := Blank.cons (by decide) right
        nil_iff := by rcases isBreak with rfl | rfl <;> simp }
    refine ⟨w, trim line ++ ((v ++ (lineBreak ++ w')) ++ a), margin,
      trim line ++ (('\n' :: v') ++ b), before, blank, ?_, ?_, ?_⟩
    · calc s = line ++ (lineBreak ++ (w' ++ a)) := split
        _ = (w ++ (trim line ++ v)) ++ (lineBreak ++ (w' ++ a)) := by rw [← whole]
        _ = w ++ (trim line ++ ((v ++ (lineBreak ++ w')) ++ a)) := by simp only [List.append_assoc]
    · have cons : trimmedLines s = trim line :: trimmedLines (w' ++ a) := by
        rw [trimmedLines, cut, List.map_cons, trimmedLines]
      rw [cons, joinLines_arrange_cons, indent, arranged, List.append_assoc, List.cons_append]
    · exact Respaced.append_left (trim line) (same.append spaces)
termination_by s.length

end Layout

namespace Table

variable {κ α : Type} [DecidableEq κ] {R : α → α → Prop}

theorem forall₂_place {k : κ} {v v' : α} {es es' : List (κ × α)} (value : R v v')
    (related : List.Forall₂ (fun e e' => e.1 = e'.1 ∧ R e.2 e'.2) es es') :
    List.Forall₂ (fun e e' => e.1 = e'.1 ∧ R e.2 e'.2) (place k v es) (place k v' es') := by
  induction related with
  | nil => exact List.Forall₂.cons ⟨rfl, value⟩ List.Forall₂.nil
  | @cons e e' es es' first rest ih =>
      simp only [place, ← first.1]
      split
      · exact List.Forall₂.cons ⟨rfl, value⟩ rest
      · exact List.Forall₂.cons first ih

theorem forall₂_insertMany {es es' : List (κ × α)} {t t' : Table κ α}
    (tables : List.Forall₂ (fun e e' => e.1 = e'.1 ∧ R e.2 e'.2) t.entries t'.entries)
    (related : List.Forall₂ (fun e e' => e.1 = e'.1 ∧ R e.2 e'.2) es es') :
    List.Forall₂ (fun e e' => e.1 = e'.1 ∧ R e.2 e'.2) (t.insertMany es).entries
      (t'.insertMany es').entries := by
  induction related generalizing t t' with
  | nil => exact tables
  | @cons e e' es es' first _ ih =>
      apply ih
      simp only [insert, ← first.1]
      exact forall₂_place first.2 tables

theorem forall₂_ofList {es es' : List (κ × α)}
    (related : List.Forall₂ (fun e e' => e.1 = e'.1 ∧ R e.2 e'.2) es es') :
    List.Forall₂ (fun e e' => e.1 = e'.1 ∧ R e.2 e'.2) (ofList es).entries (ofList es').entries :=
  forall₂_insertMany (t := ∅) List.Forall₂.nil related

end Table

/-- A layout declares what its document declares: the same names in the same
    order, with the same types and parameters. Texts and initializers have the
    same words. -/
theorem Declarations.ofText_layout {s new : Text} (laid : Layout.format s = .ok new) :
    List.Forall₂ (fun e e' => e.1 = e'.1 ∧ e.2.SameWords e'.2)
        (ofText s).variableTable.entries (ofText new).variableTable.entries ∧
      List.Forall₂ (fun e e' => e.1 = e'.1 ∧ e.2.SameWords e'.2)
        (ofText s).functionTable.entries (ofText new).functionTable.entries := by
  obtain ⟨-, arranged⟩ := Layout.format_eq_ok_iff.mp laid
  obtain ⟨w, a, v, b, left, right, rfl, split, same⟩ := Layout.exists_respaced 0 s
  rw [arranged, split, ofText_eq_forms, ofText_eq_forms]
  constructor
  · apply Table.forall₂_ofList
    rw [LetForm.headed.forms_blank_append left, LetForm.headed.forms_blank_append right]
    exact LetForm.respects.forall₂_forms LetForm.takes
      (fun blank s => by rw [LetForm.headed.forms_blank_append blank]) same
  · apply Table.forall₂_ofList
    rw [FnForm.headed.forms_blank_append left, FnForm.headed.forms_blank_append right]
    exact FnForm.respects.forall₂_forms FnForm.takes
      (fun blank s => by rw [FnForm.headed.forms_blank_append blank]) same

/-- A variable and a function whose headers go over several lines. -/
def splitHeaders : Text :=
  "  let x\r\n:t= 1 ;\nfn f(a :t,\n b:u):t\x7b\n x \x7d\n\x7d".toList

/-- The same laid out. -/
def splitHeadersLaid : Text :=
  "let x\n:t= 1 ;\nfn f(a :t,\nb:u):t\x7b\n    x \x7d\n\x7d".toList

theorem Declarations.ofText_layout_splitHeaders :
    Layout.format splitHeaders = .ok splitHeadersLaid ∧
      (ofText splitHeaders).variableTable.entries =
        [(['x'], ⟨"let x\r\n:t= 1 ;".toList, ['t'], "1 ".toList⟩)] ∧
      (ofText splitHeaders).functionTable.entries =
        [(['f'], ⟨"fn f(a :t,\n b:u):t\x7b\n x \x7d".toList, [⟨['a'], ['t']⟩, ⟨['b'], ['u']⟩],
          ['t']⟩)] ∧
      List.Forall₂ (fun e e' => e.1 = e'.1 ∧ e.2.SameWords e'.2)
        (ofText splitHeaders).variableTable.entries
        (ofText splitHeadersLaid).variableTable.entries ∧
      List.Forall₂ (fun e e' => e.1 = e'.1 ∧ e.2.SameWords e'.2)
        (ofText splitHeaders).functionTable.entries
        (ofText splitHeadersLaid).functionTable.entries := by
  have laid : Layout.format splitHeaders = .ok splitHeadersLaid :=
    Layout.format_eq_ok_iff.mpr ⟨by decide, by decide⟩
  exact ⟨laid, by decide, by decide, ofText_layout laid⟩

end Tron
