/-! # Text

A text is the list of its characters, so that an offset counts characters and
every reader of this library is a recursion on the list. The characters are the
Unicode scalar values. A lone surrogate is none of them and cannot be encoded: texts
that hold one lie outside this library, and so does the failure to count their code
units.
-/

namespace Tron

abbrev Text := List Char

namespace Text

/-- What follows `front`, if the text starts with it. -/
def after? : (front : Text) → Text → Option Text
  | [], s => some s
  | _ :: _, [] => none
  | f :: front, c :: s => if f = c then after? front s else none

theorem after?_eq_some_iff {front s rest : Text} :
    after? front s = some rest ↔ s = front ++ rest := by
  induction front generalizing s with
  | nil => simp [after?]
  | cons f front ih =>
    cases s with
    | nil => simp [after?]
    | cons c s => by_cases hc : f = c <;> simp [after?, hc, ih, eq_comm]

/-- The characters before the first `stop` and those after it, if there is a
    `stop` at all. -/
def upTo? (stop : Char) : Text → Option (Text × Text)
  | [] => none
  | c :: rest =>
    if c = stop then some ([], rest)
    else (upTo? stop rest).map fun (before, after) => (c :: before, after)

/-- The cut is at the first `stop`, and loses only that character. -/
theorem upTo?_eq_some_iff {stop : Char} {s before after : Text} :
    upTo? stop s = some (before, after) ↔
      stop ∉ before ∧ s = before ++ stop :: after := by
  induction s generalizing before with
  | nil => simp [upTo?]
  | cons c rest ih =>
    by_cases hc : c = stop
    · subst hc
      cases before with
      | nil => simp [upTo?, eq_comm]
      | cons b bs => simp +contextual [upTo?]
    · cases before with
      | nil => simp [upTo?, hc]
      | cons b bs =>
        simp only [upTo?, hc, if_false, Option.map_eq_some_iff, Prod.exists, Prod.mk.injEq,
          List.cons.injEq, List.mem_cons, not_or, List.cons_append]
        constructor
        · rintro ⟨_, _, h, ⟨rfl, rfl⟩, rfl⟩
          exact ⟨⟨Ne.symm hc, (ih.1 h).1⟩, rfl, (ih.1 h).2⟩
        · rintro ⟨⟨_, hn⟩, rfl, h⟩
          exact ⟨bs, after, ih.2 ⟨hn, h⟩, ⟨rfl, rfl⟩, rfl⟩

end Text

end Tron
