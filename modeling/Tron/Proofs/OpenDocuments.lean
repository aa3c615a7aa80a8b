import Tron.Proofs.History

/-! # Open and followed documents

The open documents and the followed ones are kept apart and changed by different
parts of a step, one of which may fail in between. They are the same documents
nevertheless, after every run. What is held of each comes from a text that some
reading of it gave.
-/

namespace Tron

namespace Session

/-- The reading of a document that a step makes, and what it gives. -/
def reading? (s : Session) : Step → Option (String × Except Unreadable Text)
  | .openDocument uri text | .change uri text =>
      some (uri, (s.withSource uri text).workspace.read uri)
  | .track uri => some (uri, s.workspace.read uri)
  | .format uri =>
      if s.preferences.formatting && s.isOpen uri then some (uri, s.workspace.read uri) else none
  | _ => none

/-- The readings made in a run, one after another. -/
def readings (s : Session) : List Step → List (String × Except Unreadable Text)
  | [] => []
  | step :: steps => (s.reading? step).toList ++ (s.step step).session.readings steps

/-- The mark of a reading stands for one that the session makes and that succeeds. -/
theorem reading?_of_mark? {s : Session} {earlier : List Step} (reflects : s.Reflects earlier)
    {step : Step} {uri : String} {text : Text}
    (marked : History.mark? earlier step = some (.read uri text)) :
    s.reading? step = some (uri, .ok text) := by
  cases step with
  | openDocument named given | change named given =>
      cases given with
      | error fault => cases marked
      | ok given =>
          cases marked
          simp [reading?, withSource, Workspace.read_set]
  | track named =>
      cases given : History.source earlier named with
      | error fault => simp [History.mark?, given, Except.toOption] at marked
      | ok found =>
          obtain ⟨rfl, rfl⟩ := by simpa [History.mark?, given, Except.toOption] using marked
          simp [reading?, reflects.workspace, given]
  | source | close | configure | complete | resolve | format | shutdown =>
      simp [History.mark?] at marked

theorem mem_readings_of_mark (earlier steps : List Step) {uri : String} {text : Text}
    (marked : Mark.read uri text ∈ History.marksFrom earlier steps) :
    (uri, .ok text) ∈ (Session.after {} earlier).readings steps := by
  induction steps generalizing earlier with
  | nil => simp [History.marksFrom] at marked
  | cons step steps ih =>
      rw [readings, ← after_append_singleton]
      rcases List.mem_append.mp marked with here | later
      · have mark : History.mark? earlier step = some (.read uri text) := by simpa using here
        exact List.mem_append_left _
          (by simp [reading?_of_mark? (reflects_after earlier) mark])
      · exact List.mem_append_right _ (ih (earlier ++ [step]) later)

theorem track_opened_nodup {s : Session} (distinct : s.opened.Nodup) (uri : String) :
    (s.track uri).1.opened.Nodup := by
  unfold track
  split
  · exact distinct
  · dsimp only
    split
    · exact distinct
    · next closed =>
        have absent : uri ∉ s.opened := by simpa [isOpen] using closed
        refine List.nodup_append.mpr ⟨distinct, by simp, fun other member _ here same => ?_⟩
        rw [List.mem_singleton.mp here] at same
        exact absent (same ▸ member)

theorem opened_nodup_step {s : Session} (distinct : s.opened.Nodup) (step : Step) :
    (s.step step).session.opened.Nodup := by
  cases step with
  | openDocument uri text | change uri text =>
      have given : (s.withSource uri text).opened.Nodup := distinct
      exact track_opened_nodup given uri
  | track uri => exact track_opened_nodup distinct uri
  | close uri => exact distinct.filter _
  | configure settings => cases settings <;> exact distinct
  | shutdown => exact List.nodup_nil
  | source | complete | resolve | format => exact distinct

theorem opened_nodup_after (steps : List Step) : (Session.after {} steps).opened.Nodup := by
  induction steps using List.reverseRecOn with
  | nil => exact List.nodup_nil
  | append_singleton steps step ih =>
      rw [after_append_singleton]
      exact opened_nodup_step ih step

/-- After every run the open documents are the followed ones, and each is held once,
    under its own URI, with what a text declares that was read from it in the run. -/
theorem open_iff_followed (steps : List Step) :
    let s := Session.after {} steps
    (∀ uri, uri ∈ s.opened ↔ uri ∈ s.documents.uris) ∧
    s.opened.Nodup ∧ s.documents.uris.Nodup ∧
    ∀ uri document, (uri, document) ∈ s.documents.tracked.entries →
      document.uri = uri ∧ ∃ text, (uri, .ok text) ∈ Session.readings {} steps ∧
        document.declarations = .ofText text := by
  intro s
  obtain ⟨tracked, opened⟩ := (reflects_after steps).follows
  have uris : s.documents.uris = (Mark.live (History.marksFrom [] steps)).map Prod.fst := by
    simp [s, Documents.uris, Table.keys, tracked]
  refine ⟨fun uri => uris ▸ opened uri, opened_nodup_after steps,
    s.documents.tracked.keys_nodup, fun uri document member => ?_⟩
  rw [tracked, List.mem_map] at member
  obtain ⟨⟨_, text⟩, live, same⟩ := member
  cases same
  obtain ⟨before, after, split, -⟩ := Mark.mem_live_iff.mp live
  exact ⟨rfl, text, mem_readings_of_mark [] steps (by simp [split]), rfl⟩

/-- One document cannot be read after it was opened, and another only later. -/
def unreadable : List Step :=
  [.openDocument "a" (.ok "let x:t=1;".toList), .openDocument "b" (.error ⟨"no such file"⟩),
    .change "a" (.error ⟨"file is locked"⟩), .close "c", .source "b" (.ok []), .track "b"]

theorem open_iff_followed_unreadable :
    (Session.after {} unreadable).documents.uris = ["a", "b"] ∧
    "b" ∈ (Session.after {} unreadable).opened ∧
    ∃ text, ("a", .ok text) ∈ Session.readings {} unreadable ∧
      Declarations.ofText "let x:t=1;".toList = .ofText text := by
  obtain ⟨same, -, -, held⟩ := open_iff_followed unreadable
  obtain ⟨-, text, read, declared⟩ := held "a" ⟨"a", .ofText "let x:t=1;".toList⟩ (.head _)
  exact ⟨by decide, (same "b").mpr (by decide), text, read, declared⟩

end Session

end Tron
