import Tron.Proofs.History

/-! # Documents apart

Who works on one document sees nothing of the others as long as completion is not
shared. A step on another document changes nothing that the answers for this one
depend on, and a step on this one changes it alike in any two sessions that agree on
it. So the steps on other documents can be left out of a run without a trace.
-/

namespace Tron

/-- Whether a step is about this document or about all documents alike. -/
def Step.concerns (uri : String) : Step → Bool
  | .source named _ | .openDocument named _ | .change named _ | .track named | .close named
  | .complete named | .format named => named = uri
  | .configure _ | .shutdown => true
  | .resolve _ => false

/-- What a step shows: its answer, unless that is a list of completions from all
    documents. -/
def Reply.shown? (r : Reply) : Step → Option Answer
  | .complete _ => if r.session.preferences.sharedCompletion then none else some r.answer
  | _ => some r.answer

namespace Session

/-- The steps of a run that concern a document, each with what it shows. -/
def observed (uri : String) (s : Session) (steps : List Step) : List (Step × Option Answer) :=
  ((steps.zip (s.replies steps)).filter fun e => e.1.concerns uri).map
    fun e => (e.1, e.2.shown? e.1)

/-- Two sessions hold the same of a document and have the same switches. -/
structure SameFor (uri : String) (s t : Session) : Prop where
  document : s.documents.get? uri = t.documents.get? uri
  isOpen : s.isOpen uri = t.isOpen uri
  preferences : s.preferences = t.preferences
  text : s.workspace.read uri = t.workspace.read uri

variable {s t u : Session} {uri named : String}

theorem track_of_unreadable {fault : Unreadable} (reads : s.workspace.read named = .error fault) :
    (s.track named).1 = s := by
  rw [track, reads]

section Readable

variable {text : Text} (reads : s.workspace.read named = .ok text)

include reads

theorem get?_track : (s.track named).1.documents.get? uri =
    if named = uri then some ⟨named, .ofText text⟩ else s.documents.get? uri := by
  simp only [track, reads, Documents.get?, Documents.update, Table.get?_insert, Table.get?_erase]
  split <;> rfl

theorem isOpen_track : (s.track named).1.isOpen uri = (named = uri || s.isOpen uri) := by
  simp only [track, reads]
  by_cases same : named = uri
  · subst same
    cases opened : s.isOpen named with
    | false => simp [isOpen]
    | true => simpa [isOpen] using opened
  · have other : ¬ uri = named := Ne.symm same
    cases s.isOpen named <;> simp [isOpen, same, other]

end Readable

theorem get?_close : (s.close named).1.documents.get? uri =
    if named = uri then none else s.documents.get? uri :=
  Table.get?_erase _ _ _

theorem isOpen_close : (s.close named).1.isOpen uri = (uri ≠ named && s.isOpen uri) := by
  have opened : (s.close named).1.opened = s.opened.filter (· ≠ named) := rfl
  rw [isOpen, opened, isOpen, Bool.eq_iff_iff]
  simp [and_comm]

namespace SameFor

theorem refl (s : Session) : SameFor uri s s := ⟨rfl, rfl, rfl, rfl⟩

theorem symm (same : SameFor uri s t) : SameFor uri t s :=
  ⟨same.document.symm, same.isOpen.symm, same.preferences.symm, same.text.symm⟩

theorem trans (first : SameFor uri s t) (second : SameFor uri t u) : SameFor uri s u :=
  ⟨first.document.trans second.document, first.isOpen.trans second.isOpen,
    first.preferences.trans second.preferences, first.text.trans second.text⟩

/-- Following a document leads to the same of it from two sessions that agree on it. -/
theorem track (same : SameFor uri s t) : SameFor uri (s.track uri).1 (t.track uri).1 := by
  cases reads : s.workspace.read uri with
  | error fault =>
      rw [track_of_unreadable reads, track_of_unreadable (same.text ▸ reads)]
      exact same
  | ok text =>
      have reads' : t.workspace.read uri = .ok text := same.text ▸ reads
      constructor
      · rw [get?_track reads, get?_track reads', same.document]
      · rw [isOpen_track reads, isOpen_track reads', same.isOpen]
      · rw [track_preferences, track_preferences, same.preferences]
      · rw [track_workspace, track_workspace, same.text]

theorem close (same : SameFor uri s t) : SameFor uri (s.close uri).1 (t.close uri).1 := by
  constructor
  · rw [get?_close, get?_close, same.document]
  · rw [isOpen_close, isOpen_close, same.isOpen]
  · exact same.preferences
  · exact same.text

theorem withSource (same : SameFor uri s t) (text : Except Unreadable Text) :
    SameFor uri (s.withSource uri text) (t.withSource uri text) := by
  refine { same with text := ?_ }
  simp [Session.withSource, Workspace.read_set]

/-- A step that concerns the document leads to sessions that still agree on it. -/
theorem step (same : SameFor uri s t) {step : Step} (concerned : step.concerns uri = true) :
    SameFor uri (s.step step).session (t.step step).session := by
  cases step with
  | source named text =>
      obtain rfl : named = uri := by simpa [Step.concerns] using concerned
      exact same.withSource text
  | openDocument named text | change named text =>
      obtain rfl : named = uri := by simpa [Step.concerns] using concerned
      exact (same.withSource text).track
  | track named =>
      obtain rfl : named = uri := by simpa [Step.concerns] using concerned
      exact same.track
  | close named =>
      obtain rfl : named = uri := by simpa [Step.concerns] using concerned
      exact same.close
  | configure settings =>
      cases settings with
      | none => exact same
      | some settings => exact { same with preferences := rfl }
  | complete | format => exact same
  | shutdown => exact ⟨rfl, rfl, same.preferences, same.text⟩
  | resolve item => cases concerned

end SameFor

section Elsewhere

variable (other : named ≠ uri)

include other

theorem sameFor_track : SameFor uri s (s.track named).1 := by
  cases reads : s.workspace.read named with
  | error fault =>
      rw [track_of_unreadable reads]
      exact SameFor.refl s
  | ok text =>
      constructor
      · rw [get?_track reads, if_neg other]
      · simp [isOpen_track reads, other]
      · rw [track_preferences]
      · rw [track_workspace]

theorem sameFor_close : SameFor uri s (s.close named).1 := by
  refine ⟨?_, ?_, rfl, rfl⟩
  · rw [get?_close, if_neg other]
  · simp [isOpen_close, Ne.symm other]

theorem sameFor_withSource (text : Except Unreadable Text) :
    SameFor uri s (s.withSource named text) := by
  refine ⟨rfl, rfl, rfl, ?_⟩
  rw [withSource, Workspace.read_set, if_neg other]

end Elsewhere

/-- A step that does not concern the document changes nothing of it. -/
theorem sameFor_step {step : Step} (other : step.concerns uri = false) :
    SameFor uri s (s.step step).session := by
  cases step with
  | source named text =>
      have elsewhere : named ≠ uri := by simpa [Step.concerns] using other
      exact sameFor_withSource elsewhere text
  | openDocument named text | change named text =>
      have elsewhere : named ≠ uri := by simpa [Step.concerns] using other
      exact (sameFor_withSource elsewhere text).trans (sameFor_track elsewhere)
  | track named =>
      have elsewhere : named ≠ uri := by simpa [Step.concerns] using other
      exact sameFor_track elsewhere
  | close named =>
      have elsewhere : named ≠ uri := by simpa [Step.concerns] using other
      exact sameFor_close elsewhere
  | complete | format | resolve => exact SameFor.refl s
  | configure | shutdown => cases other

/-- A layout depends on the switch, on whether the document is open and on the
    client's text of it. -/
theorem format_answer_congr (switch : s.preferences.formatting = t.preferences.formatting)
    (isOpen : s.isOpen uri = t.isOpen uri)
    (text : s.workspace.read uri = t.workspace.read uri) :
    (s.step (.format uri)).answer = (t.step (.format uri)).answer := by
  simp only [step, format, switch, isOpen, text]

namespace SameFor

theorem format_answer (same : SameFor uri s t) :
    (s.step (.format uri)).answer = (t.step (.format uri)).answer :=
  format_answer_congr (congrArg (·.formatting) same.preferences) same.isOpen same.text

theorem complete_answer (same : SameFor uri s t) (own : s.preferences.sharedCompletion = false) :
    (s.step (.complete uri)).answer = (t.step (.complete uri)).answer := by
  have own' : t.preferences.sharedCompletion = false := same.preferences ▸ own
  simp only [Session.step, complete, Documents.visible, Documents.own, own, own', same.isOpen,
    same.document, Bool.false_eq_true, if_false]

/-- A step that concerns the document shows the same in sessions that agree on it. -/
theorem shown?_eq (same : SameFor uri s t) {step : Step} (concerned : step.concerns uri = true) :
    (s.step step).shown? step = (t.step step).shown? step := by
  cases step with
  | complete named =>
      obtain rfl : named = uri := by simpa [Step.concerns] using concerned
      have shown : ∀ r : Session, (r.step (.complete named)).shown? (.complete named) =
          if r.preferences.sharedCompletion then none
          else some (r.step (.complete named)).answer := fun _ => rfl
      rw [shown, shown, ← same.preferences]
      split
      · rfl
      · next own => rw [same.complete_answer (Bool.eq_false_iff.mpr own)]
  | format named =>
      obtain rfl : named = uri := by simpa [Step.concerns] using concerned
      exact congrArg some same.format_answer
  | configure settings => cases settings <;> rfl
  | source | openDocument | change | track | close | shutdown => rfl
  | resolve item => cases concerned

end SameFor

/-- Steps that do not concern a document can be left out of a run: what the others
    show stays the same. -/
theorem observed_filter (same : SameFor uri s t) (steps : List Step) :
    observed uri s steps = observed uri t (steps.filter (·.concerns uri)) := by
  induction steps generalizing s t with
  | nil => rfl
  | cons step steps ih =>
      cases concerned : step.concerns uri with
      | false =>
          have later := ih ((sameFor_step concerned).symm.trans same)
          simpa [observed, replies, concerned] using later
      | true =>
          have here := same.shown?_eq concerned
          have later := ih (same.step concerned)
          simpa [observed, replies, concerned, here] using later

/-- Two runs that agree on the steps that concern a document show the same of it:
    completion lists of its own and layouts, whatever is done with other documents.
    A layout depends on the switch, on whether the document is open and on the
    client's text of it, and on nothing that is held of any document. -/
theorem runs_agree_on_document (uri : String) (run other : List Step)
    (agree : run.filter (·.concerns uri) = other.filter (·.concerns uri)) :
    observed uri {} run = observed uri {} other ∧
    ∀ s t : Session, s.preferences.formatting = t.preferences.formatting →
      s.isOpen uri = t.isOpen uri → s.workspace.read uri = t.workspace.read uri →
        (s.step (.format uri)).answer = (t.step (.format uri)).answer := by
  constructor
  · rw [observed_filter (SameFor.refl {}) run, agree, ← observed_filter (SameFor.refl {}) other]
  · intro s t switch isOpen text
    exact format_answer_congr switch isOpen text

/-- Completion is scoped, and a document is edited, completed and laid out. -/
def alone : List Step :=
  [.configure (some (.group [("completion", .group [("crossDocument", .bool false)])])),
    .openDocument "a" (.ok "let x:t=1;".toList), .complete "a", .format "a"]

/-- The same with steps on another document in between, one of which fails. -/
def amidOthers : List Step :=
  [.openDocument "b" (.ok "let x:u=2;let y:u=3;".toList), .configure
      (some (.group [("completion", .group [("crossDocument", .bool false)])])),
    .openDocument "a" (.ok "let x:t=1;".toList), .change "b" (.error ⟨"file is locked"⟩), .complete "a", .close "b",
    .format "b", .format "a"]

theorem runs_agree_on_document_amidOthers :
    alone.filter (·.concerns "a") = amidOthers.filter (·.concerns "a") ∧
    observed "a" {} alone = observed "a" {} amidOthers ∧
    ((observed "a" {} amidOthers)[2]?.map Prod.snd) =
      some (some (.completions
        (completions (some (Declarations.ofText "let x:t=1;".toList))))) := by
  have agree : alone.filter (·.concerns "a") = amidOthers.filter (·.concerns "a") := rfl
  obtain ⟨shown, -⟩ := runs_agree_on_document "a" alone amidOthers agree
  refine ⟨agree, shown, ?_⟩
  rw [← shown]
  rfl

end Session

end Tron
