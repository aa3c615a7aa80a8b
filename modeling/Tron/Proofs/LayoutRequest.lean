import Tron.Proofs.History
import Tron.Proofs.LayoutNormal
import Tron.Proofs.PlaceDecoding

/-! # The answer to a request for a layout

The one edit of the answer spans the client's current text from its first
character to its last, however its lines end and however wide its characters
are, so a client that carries it out holds the layout and nothing else.
-/

namespace Tron

namespace Edit

theorem start_offset? (s : Text) : Position.start.offset? s = some 0 := by
  cases s <;> rfl

theorem endOf_offset? (s : Text) : (Position.endOf s).offset? s = some s.length :=
  Position.offset?_endOf_self s

theorem applied?_replacing (s new : Text) : (replacing s new).applied? s = some new := by
  simp [applied?, replacing, Span.whole, start_offset?, endOf_offset?]

end Edit

namespace Session

variable {s : Session} {uri : String}

theorem format_answer_off (off : s.preferences.formatting = false ∨ s.isOpen uri = false) :
    (s.step (.format uri)).answer = .edits [] := by
  by_cases enabled : s.preferences.formatting = true
  · have closed : s.isOpen uri = false := by simpa [enabled] using off
    simp [step, format, enabled, closed]
  · simp [step, format, enabled]

theorem format_answer_unreadable (enabled : s.preferences.formatting = true)
    (opened : s.isOpen uri = true) {fault : Unreadable}
    (holds : s.workspace.read uri = .error fault) :
    (s.step (.format uri)).answer = .failed (.unreadable fault) := by
  simp [step, format, enabled, opened, holds]

/-- The text that decides is the client's current one, read or not before. -/
theorem format_answer_of_read (enabled : s.preferences.formatting = true)
    (opened : s.isOpen uri = true) {text : Text} (holds : s.workspace.read uri = .ok text) :
    (s.step (.format uri)).answer =
      match Layout.format text with
      | .error fault => .failed (.unclosed fault)
      | .ok new => .edits [.replacing text new] := by
  cases laid : Layout.format text with
  | error fault => simp [step, format, enabled, opened, holds, Layout.edits, laid, Except.map]
  | ok new => simp [step, format, enabled, opened, holds, Layout.edits, laid, Except.map]

theorem format_answer_eq_nil_iff : (s.step (.format uri)).answer = .edits [] ↔
    s.preferences.formatting = false ∨ s.isOpen uri = false := by
  constructor
  · intro none
    by_contra on
    simp only [not_or, Bool.not_eq_false] at on
    obtain ⟨enabled, opened⟩ := on
    cases given : s.workspace.read uri with
    | error fault => simp [format_answer_unreadable enabled opened given] at none
    | ok text =>
        rw [format_answer_of_read enabled opened given] at none
        cases laid : Layout.format text <;> simp [laid] at none
  · exact format_answer_off

/-- A request answers with no edit exactly if layouts are off or the document is
    not open. Else the client's current text decides: it has no layout, or the one
    edit makes the layout of it. Once the client holds that layout, asking again
    gives an edit that changes nothing. -/
theorem layout_request (steps : List Step) (uri : String) :
    let s := Session.after {} steps
    let answer := (s.step (.format uri)).answer
    (answer = .edits [] ↔ s.preferences.formatting = false ∨ s.isOpen uri = false) ∧
    (s.preferences.formatting = true → s.isOpen uri = true →
      (∀ fault, History.source steps uri = .error fault →
        answer = .failed (.unreadable fault)) ∧
      ∀ text, History.source steps uri = .ok text →
        (∀ fault, answer = .failed (.unclosed fault) ↔ Layout.format text = .error fault) ∧
        ∀ new, Layout.format text = .ok new →
          ∃ edit, answer = .edits [edit] ∧ edit.newText = new ∧
            edit.span.start.offset? text = some 0 ∧
            edit.span.stop.offset? text = some text.length ∧
            edit.applied? text = some new ∧
            ∀ more, (Session.after {} (steps ++ more)).preferences.formatting = true →
              (Session.after {} (steps ++ more)).isOpen uri = true →
              History.source (steps ++ more) uri = .ok new →
              ∃ again, ((Session.after {} (steps ++ more)).step (.format uri)).answer =
                  .edits [again] ∧ again.applied? new = some new) := by
  intro s answer
  have reads : ∀ run, (Session.after {} run).workspace.read uri = History.source run uri :=
    fun run => (reflects_after run).workspace uri
  refine ⟨format_answer_eq_nil_iff, fun enabled opened => ⟨fun fault unread => ?_, ?_⟩⟩
  · exact format_answer_unreadable enabled opened ((reads steps).trans unread)
  · intro text given
    have decided := format_answer_of_read enabled opened ((reads steps).trans given)
    constructor
    · intro fault
      cases laid : Layout.format text <;> simp [answer, s, decided, laid]
    · intro new laid
      refine ⟨.replacing text new, by simpa only [laid] using decided, rfl,
        Edit.start_offset? text, Edit.endOf_offset? text, Edit.applied?_replacing text new, ?_⟩
      intro more enabled' opened' given'
      refine ⟨.replacing new new, ?_, Edit.applied?_replacing new new⟩
      simpa only [Layout.format_format laid] using
        format_answer_of_read enabled' opened' ((reads _).trans given')

/-- A document is opened, and then the client's text of it changes unannounced. -/
def edited : List Step :=
  [.openDocument "a" (.ok []), .source "a" (.ok "f\x7b\r\n😀\r\x7d\n\x7d".toList)]

theorem layout_request_edited :
    (∃ edit, ((Session.after {} edited).step (.format "a")).answer = .edits [edit] ∧
      edit.applied? "f\x7b\r\n😀\r\x7d\n\x7d".toList =
        some "f\x7b\n    😀\r\x7d\n\x7d".toList) ∧
    ∃ again, ((Session.after {}
        (edited ++ [.source "a" (.ok "f\x7b\n    😀\r\x7d\n\x7d".toList)])).step
          (.format "a")).answer = .edits [again] ∧
      again.applied? "f\x7b\n    😀\r\x7d\n\x7d".toList =
        some "f\x7b\n    😀\r\x7d\n\x7d".toList := by
  have laid : Layout.format "f\x7b\r\n😀\r\x7d\n\x7d".toList =
      .ok "f\x7b\n    😀\r\x7d\n\x7d".toList :=
    Layout.format_eq_ok_iff.mpr ⟨by decide, by decide⟩
  obtain ⟨-, answered⟩ := layout_request edited "a"
  obtain ⟨-, decided⟩ := answered (by decide) (by decide)
  obtain ⟨-, layouts⟩ := decided "f\x7b\r\n😀\r\x7d\n\x7d".toList (by decide)
  obtain ⟨edit, edits, -, -, -, applied, later⟩ := layouts _ laid
  refine ⟨⟨edit, edits, applied⟩, ?_⟩
  exact later [.source "a" (.ok _)] (by decide) (by decide) (by decide)

end Session

end Tron
