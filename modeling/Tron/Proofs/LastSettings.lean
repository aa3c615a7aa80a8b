import Tron.Proofs.History

/-! # The last settings decide

Which section of some settings is meant for the server depends on their form alone:
a group in the place named for the server, nothing if something else stands there,
or the settings themselves. A switch is off only if that section says so in so many
words. After a run the switches are those of the last settings, whatever was sent
before and whatever else was done since.
-/

namespace Tron

namespace Setting

/-- The part of some settings that is meant for the server. -/
inductive MeantFor : Setting → Setting → Prop where
  /-- The group that stands in the place named for the server. -/
  | named {s own : Setting} :
      s.member? sectionName = some own → own.isGroup = true → MeantFor s own
  /-- What stands there is no group, and nothing beside it counts. -/
  | misnamed {s other : Setting} :
      s.member? sectionName = some other → other.isGroup = false → MeantFor s (.group [])
  /-- A group without such a place is meant as a whole. -/
  | bare {s : Setting} : s.isGroup = true → s.member? sectionName = none → MeantFor s s
  /-- Settings that are no group have nothing in them. -/
  | shapeless {s : Setting} : s.isGroup = false → MeantFor s (.group [])

/-- A section has a group with a member that is `false`. -/
def TurnsOff (s : Setting) (group name : String) : Prop :=
  ∃ members, s.member? group = some (.group members) ∧
    (Setting.group members).member? name = some (.bool false)

variable {s own : Setting}

theorem isGroup_of_member? {name : String} {value : Setting}
    (found : s.member? name = some value) : s.isGroup = true := by
  cases s with
  | group members => rfl
  | null | bool | number | string | list => cases found

theorem meantFor_ownSection (s : Setting) : s.MeantFor s.ownSection := by
  cases found : s.member? sectionName with
  | some other =>
      cases shape : other.isGroup with
      | true => simpa [ownSection, found, shape] using MeantFor.named found shape
      | false => simpa [ownSection, found, shape] using MeantFor.misnamed found shape
  | none =>
      cases shape : s.isGroup with
      | true => simpa [ownSection, found, shape] using MeantFor.bare shape found
      | false => simpa [ownSection, found, shape] using MeantFor.shapeless shape

theorem MeantFor.ownSection_eq (meant : s.MeantFor own) : s.ownSection = own := by
  cases meant with
  | named found shape => simp [ownSection, found, shape]
  | misnamed found shape => simp [ownSection, found, shape]
  | bare shape found => simp [ownSection, found, shape]
  | shapeless shape =>
      cases found : s.member? sectionName with
      | none => simp [ownSection, found, shape]
      | some other => simp [isGroup_of_member? found] at shape

theorem existsUnique_meantFor (s : Setting) : ∃! own, s.MeantFor own := by
  refine ⟨s.ownSection, s.meantFor_ownSection, ?_⟩
  intro other meant
  exact meant.ownSection_eq.symm

theorem switch_eq_false_iff (s : Setting) (group name : String) :
    s.switch group name = false ↔ s.TurnsOff group name := by
  unfold switch TurnsOff
  cases found : s.member? group with
  | none => simp
  | some inner =>
      cases inner with
      | null | bool | number | string | list => simp [member?]
      | group members =>
          cases value : (Setting.group members).member? name with
          | none => simp [value]
          | some setting => cases setting <;> simp [value]

/-- A group is taken the same whether it is sent bare or in its place. -/
theorem ownSection_wrapped {members : List (String × Setting)}
    (bare : (Setting.group members).member? sectionName = none) :
    (Setting.group [(sectionName, .group members)]).ownSection =
      (Setting.group members).ownSection := by
  have wrapped : (Setting.group [(sectionName, .group members)]).MeantFor (.group members) :=
    .named (by simp [member?]) rfl
  have alone : (Setting.group members).MeantFor (.group members) := .bare rfl bare
  rw [wrapped.ownSection_eq, alone.ownSection_eq]

end Setting

theorem Step.settings?_eq_none_iff {step : Step} :
    step.settings? = none ↔ ∀ settings, step ≠ .configure (some settings) := by
  cases step with
  | configure given => cases given <;> simp [Step.settings?]
  | source | openDocument | change | track | close | complete | resolve | format | shutdown =>
      simp [Step.settings?]

/-- Steps none of which brings settings. -/
def Step.Silent (steps : List Step) : Prop :=
  ∀ step ∈ steps, ∀ settings, step ≠ .configure (some settings)

theorem Step.Silent.filterMap_eq_nil {steps : List Step} (silent : Step.Silent steps) :
    steps.filterMap Step.settings? = [] := by
  apply List.filterMap_eq_nil_iff.mpr
  intro step member
  exact Step.settings?_eq_none_iff.mpr (silent step member)

namespace History

theorem preferences_of_silent {steps : List Step} (silent : Step.Silent steps) :
    preferences steps = {} := by
  unfold preferences
  rw [silent.filterMap_eq_nil]
  rfl

theorem preferences_of_last (earlier : List Step) (settings : Setting) {later : List Step}
    (silent : Step.Silent later) :
    preferences (earlier ++ .configure (some settings) :: later) = .ofSettings settings := by
  have brought : (Step.configure (some settings)).settings? = some settings := rfl
  unfold preferences
  rw [List.filterMap_append, List.filterMap_cons_some brought, silent.filterMap_eq_nil,
    List.getLast?_append, List.getLast?_singleton]
  rfl

end History

namespace Session

theorem preferences_step_of_other (s : Session) {step : Step}
    (other : ∀ settings, step ≠ .configure (some settings)) :
    (s.step step).session.preferences = s.preferences := by
  rw [preferences_step, Step.settings?_eq_none_iff.mpr other]
  rfl

theorem preferences_after_silent {steps : List Step} (silent : Step.Silent steps) :
    (Session.after {} steps).preferences = {} := by
  rw [(reflects_after steps).preferences, History.preferences_of_silent silent]

theorem preferences_after_last (earlier : List Step) {later : List Step} {settings own : Setting}
    (silent : Step.Silent later) (meant : settings.MeantFor own) :
    (Session.after {} (earlier ++ .configure (some settings) :: later)).preferences =
      ⟨own.switch "completion" "crossDocument", own.switch "formatting" "enabled"⟩ := by
  rw [(reflects_after _).preferences, History.preferences_of_last earlier settings silent,
    Preferences.ofSettings, meant.ownSection_eq]

theorem step_configure_wrapped (s : Session) {members : List (String × Setting)}
    (bare : (Setting.group members).member? Setting.sectionName = none) :
    s.step (.configure (some (.group [(Setting.sectionName, .group members)]))) =
      s.step (.configure (some (.group members))) := by
  simp only [step, configure, Preferences.ofSettings, Setting.ownSection_wrapped bare]

/-- Only a step that brings settings touches the switches. Both are on in a run without
    settings. In any other run each is off exactly if the section of the last settings
    turns it off, whatever stands in the other's place and whatever was sent before.
    Every setting has one such section, and a group is taken the same whether it is
    sent bare or in the place named for the server. -/
theorem preferences_by_last_settings :
    (∀ (s : Session) (step : Step), (∀ settings, step ≠ .configure (some settings)) →
      (s.step step).session.preferences = s.preferences) ∧
    (∀ steps : List Step, Step.Silent steps →
      (Session.after {} steps).preferences = ⟨true, true⟩) ∧
    (∀ (earlier later : List Step) (settings own : Setting), Step.Silent later →
      settings.MeantFor own →
      let last := (Session.after {} (earlier ++ .configure (some settings) :: later)).preferences
      (last.sharedCompletion = false ↔ own.TurnsOff "completion" "crossDocument") ∧
      (last.formatting = false ↔ own.TurnsOff "formatting" "enabled")) ∧
    (∀ settings : Setting, ∃! own, settings.MeantFor own) ∧
    ∀ (s : Session) (members : List (String × Setting)),
      (Setting.group members).member? "tron" = none →
      s.step (.configure (some (.group [("tron", .group members)]))) =
        s.step (.configure (some (.group members))) := by
  refine ⟨fun s _ => s.preferences_step_of_other, fun _ => preferences_after_silent, ?_,
    Setting.existsUnique_meantFor, fun s _ => s.step_configure_wrapped⟩
  intro earlier later settings own silent meant last
  have decided : last = _ := preferences_after_last earlier silent meant
  rw [decided]
  exact ⟨own.switch_eq_false_iff _ _, own.switch_eq_false_iff _ _⟩

/-- One switch is off, and a number stands in the other's place. A member beside the
    section says otherwise. -/
def halfOff : Setting :=
  .group [("formatting", .group [("enabled", .bool false)]),
    ("tron", .group [("completion", .group [("crossDocument", .bool false)]),
      ("formatting", .group [("enabled", .number 0 0)])])]

theorem preferences_by_last_settings_halfOff :
    let run := [.configure (some .null), .openDocument "a" (.ok []), .configure (some halfOff),
      .configure none, .close "a", .shutdown]
    (Session.after {} run).preferences.sharedCompletion = false ∧
      (Session.after {} run).preferences.formatting ≠ false := by
  intro run
  have meant : halfOff.MeantFor
      (.group [("completion", .group [("crossDocument", .bool false)]),
        ("formatting", .group [("enabled", .number 0 0)])]) := .named rfl rfl
  have silent : Step.Silent [.configure none, .close "a", .shutdown] := by simp [Step.Silent]
  obtain ⟨-, -, last, -, -⟩ := preferences_by_last_settings
  obtain ⟨shared, layout⟩ :=
    last [.configure (some .null), .openDocument "a" (.ok [])] _ halfOff _ silent meant
  constructor
  · exact shared.mpr ⟨_, rfl, rfl⟩
  · intro off
    obtain ⟨members, group, denied⟩ := layout.mp off
    cases group
    cases denied

end Session

end Tron
