import Tron.Proofs.Marks
import Tron.Session.Basic

/-! # What a history says

The steps taken on a new session decide all that the session holds. This module
says how, without the session: which text the client holds for a document, which
documents are followed and with which text, and how the switches are set. The
session's state is then shown to be that, after every run.
-/

namespace Tron

/-- What a step gives for a document: a text, or the reason why there is none. -/
def Step.given? (uri : String) : Step → Option (Except Unreadable Text)
  | .source named text | .openDocument named text | .change named text =>
      if named = uri then some text else none
  | _ => none

def Step.settings? : Step → Option Setting
  | .configure settings => settings
  | _ => none

namespace History

/-- The client's text of a document after the steps: the last one given, or the
    reason why that cannot be read, and empty if none was ever given. -/
def source (steps : List Step) (uri : String) : Except Unreadable Text :=
  (steps.filterMap (Step.given? uri)).getLast?.getD (.ok [])

/-- The switches after the steps: those of the last settings. -/
def preferences (steps : List Step) : Preferences :=
  ((steps.filterMap Step.settings?).getLast?.map .ofSettings).getD {}

/-- What a step does to the followed documents, after the steps before it. -/
def mark? (earlier : List Step) : Step → Option Mark
  | .openDocument uri text | .change uri text => text.toOption.map (.read uri)
  | .track uri => (source earlier uri).toOption.map (.read uri)
  | .close uri => some (.closed uri)
  | .shutdown => some .ended
  | _ => none

def marksFrom (earlier : List Step) : List Step → List Mark
  | [] => []
  | step :: steps => (mark? earlier step).toList ++ marksFrom (earlier ++ [step]) steps

/-- The documents that are followed after the steps, each with the text it was
    last read with, in the order of these readings. -/
def live (steps : List Step) : List (String × Text) := Mark.live (marksFrom [] steps)

def textOf? (steps : List Step) (uri : String) : Option Text :=
  ((live steps).find? fun d => d.1 = uri).map Prod.snd

theorem source_append_singleton (steps : List Step) (step : Step) (uri : String) :
    source (steps ++ [step]) uri = (step.given? uri).getD (source steps uri) := by
  cases given : step.given? uri <;> simp [source, List.filterMap_append, given]

theorem preferences_append_singleton (steps : List Step) (step : Step) :
    preferences (steps ++ [step]) =
      (step.settings?.map .ofSettings).getD (preferences steps) := by
  cases given : step.settings? <;> simp [preferences, List.filterMap_append, given]

theorem marksFrom_append_singleton (earlier steps : List Step) (step : Step) :
    marksFrom earlier (steps ++ [step]) =
      marksFrom earlier steps ++ (mark? (earlier ++ steps) step).toList := by
  induction steps generalizing earlier with
  | nil => simp [marksFrom]
  | cons first steps ih => simp [marksFrom, ih]

end History

namespace Workspace

theorem read_set (w : Workspace) (named uri : String) (source : Except Unreadable Text) :
    (w.set named source).read uri = if named = uri then source else w.read uri := by
  by_cases same : named = uri <;> simp [read, set, Table.get?_insert, same]

end Workspace

namespace Session

/-- The followed documents and the open ones are those that the marks say. -/
structure Follows (s : Session) (marks : List Mark) : Prop where
  tracked : s.documents.tracked.entries =
    (Mark.live marks).map fun d => (d.1, TrackedDocument.ofText d.1 d.2)
  opened : ∀ uri, uri ∈ s.opened ↔ uri ∈ (Mark.live marks).map Prod.fst

namespace Follows

variable {s : Session} {marks : List Mark}

theorem of_same (follows : s.Follows marks) {t : Session} (documents : t.documents = s.documents)
    (opened : t.opened = s.opened) : t.Follows marks :=
  ⟨by rw [documents, follows.tracked], by rw [opened]; exact follows.opened⟩

/-- A reading that succeeds leaves its mark, and one that fails leaves none. -/
theorem track (follows : s.Follows marks) {uri : String} {source : Except Unreadable Text}
    (holds : s.workspace.read uri = source) :
    (s.track uri).1.Follows (marks ++ (source.toOption.map (Mark.read uri)).toList) := by
  cases source with
  | error fault => simpa [Session.track, holds, Except.toOption] using follows
  | ok text =>
      simp only [Session.track, holds, Except.toOption, Option.map_some, Option.toList_some]
      constructor
      · exact Documents.entries_update_of_live uri text follows.tracked
      · intro named
        rw [Mark.live_append_singleton]
        by_cases same : named = uri
        · subst same
          by_cases known : s.isOpen named = true
          · simpa [known, Mark.document?] using by simpa [isOpen] using known
          · simp [known, Mark.document?]
        · have other : uri ≠ named := Ne.symm same
          have before := follows.opened named
          split <;> simp_all [Mark.document?, Mark.supersedes]

theorem close (follows : s.Follows marks) (uri : String) :
    (s.close uri).1.Follows (marks ++ [.closed uri]) := by
  constructor
  · exact Documents.entries_forget_of_live uri follows.tracked
  · intro named
    have before := follows.opened named
    by_cases same : named = uri <;>
      simp_all [Session.close, Mark.live_append_singleton, Mark.supersedes, Mark.document?]

theorem shutdown (s : Session) (marks : List Mark) :
    s.shutdown.1.Follows (marks ++ [.ended]) := by
  have none_live : Mark.live (marks ++ [.ended]) = [] := Mark.live_ended marks []
  exact ⟨by rw [none_live]; rfl, by rw [none_live]; exact fun _ => Iff.rfl⟩

end Follows

/-- The state of a session is what its history says. -/
structure Reflects (s : Session) (steps : List Step) : Prop where
  follows : s.Follows (History.marksFrom [] steps)
  workspace : ∀ uri, s.workspace.read uri = History.source steps uri
  preferences : s.preferences = History.preferences steps

theorem track_workspace (s : Session) (uri : String) :
    (s.track uri).1.workspace = s.workspace := by
  unfold track
  split <;> rfl

theorem track_preferences (s : Session) (uri : String) :
    (s.track uri).1.preferences = s.preferences := by
  unfold track
  split <;> rfl

theorem read_step (s : Session) (step : Step) (uri : String) :
    (s.step step).session.workspace.read uri =
      (step.given? uri).getD (s.workspace.read uri) := by
  cases step with
  | source named text =>
      simp only [Session.step, withSource, Workspace.read_set, Step.given?]
      split <;> rfl
  | openDocument named text | change named text =>
      simp only [Session.step, track_workspace, withSource, Workspace.read_set, Step.given?]
      split <;> rfl
  | track named => simp only [Session.step, track_workspace, Step.given?, Option.getD_none]
  | configure settings => cases settings <;> rfl
  | close | complete | resolve | format | shutdown => rfl

theorem preferences_step (s : Session) (step : Step) :
    (s.step step).session.preferences =
      (step.settings?.map Preferences.ofSettings).getD s.preferences := by
  cases step with
  | openDocument named text | change named text | track named =>
      exact track_preferences _ named
  | configure settings => cases settings <;> rfl
  | source | close | complete | resolve | format | shutdown => rfl

/-- A step changes the followed documents by its mark. -/
theorem follows_step {s : Session} {steps : List Step} (reflects : s.Reflects steps)
    (step : Step) :
    (s.step step).session.Follows
      (History.marksFrom [] steps ++ (History.mark? steps step).toList) := by
  obtain ⟨follows, workspace, -⟩ := reflects
  cases step with
  | openDocument uri text | change uri text =>
      have given : (s.withSource uri text).Follows (History.marksFrom [] steps) :=
        follows.of_same rfl rfl
      exact given.track (by simp [withSource, Workspace.read_set])
  | track uri => exact follows.track (workspace uri)
  | close uri => exact follows.close uri
  | shutdown => exact Follows.shutdown s _
  | configure settings =>
      simp only [History.mark?, Option.toList_none, List.append_nil]
      cases settings <;> exact follows.of_same rfl rfl
  | source | complete | resolve | format =>
      simp only [History.mark?, Option.toList_none, List.append_nil]
      exact follows.of_same rfl rfl

namespace Reflects

theorem new : Reflects {} [] := by
  refine ⟨⟨rfl, fun _ => Iff.rfl⟩, fun uri => ?_, rfl⟩
  rfl

theorem step {s : Session} {steps : List Step} (reflects : s.Reflects steps) (step : Step) :
    (s.step step).session.Reflects (steps ++ [step]) where
  follows := by
    rw [History.marksFrom_append_singleton, List.nil_append]
    exact s.follows_step reflects step
  workspace uri := by
    rw [read_step, History.source_append_singleton, reflects.workspace]
  preferences := by
    rw [preferences_step, History.preferences_append_singleton, reflects.preferences]

end Reflects

theorem after_append_singleton (s : Session) (steps : List Step) (step : Step) :
    s.after (steps ++ [step]) = ((s.after steps).step step).session :=
  List.foldl_append

/-- After every run, the state of the session is what the steps say. -/
theorem reflects_after (steps : List Step) : (Session.after {} steps).Reflects steps := by
  induction steps using List.reverseRecOn with
  | nil => exact Reflects.new
  | append_singleton steps step ih =>
      rw [after_append_singleton]
      exact ih.step step

end Session

end Tron
