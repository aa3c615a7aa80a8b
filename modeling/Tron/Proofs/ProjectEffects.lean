import Tron.Project.Command
import Tron.Proofs.FileEffects

/-! # What a project command does to the files

A plan writes the files that its actions name and makes directories. However far it
gets, everything else stays as it was. Only the plan that creates a project has such
actions, so nothing is touched unless a command line asks for that.
-/

namespace Tron

namespace FileTree

/-- The places that paths lead to. -/
def leadsTo (t : FileTree) (working : Place) (paths : List Path) : Set Place :=
  {place | ∃ p ∈ paths, t.locate working p = .ok place}

variable {written : Set Place} {t u : FileTree} {working : Place} {paths more : List Path}

theorem leadsTo_mono (covered : ∀ p ∈ paths, p ∈ more) :
    ∀ place ∈ t.leadsTo working paths, place ∈ t.leadsTo working more := by
  intro place leads
  obtain ⟨p, member, located⟩ := leads
  exact ⟨p, covered p member, located⟩

theorem leadsTo_of_changes (changes : Changes written t u) :
    ∀ place ∈ t.leadsTo working paths, place ∈ u.leadsTo working paths := by
  intro place leads
  obtain ⟨p, member, located⟩ := leads
  exact ⟨p, member, locate_of_changes changes located⟩

end FileTree

open FileTree (Changes)

namespace Action

/-- The file that an action writes. -/
def written? : Action → Option Path
  | .write p _ => some p
  | _ => none

/-- An action that makes directories or writes a file. -/
def onFiles : Action → Bool
  | .makeDirectory _ | .write _ _ => true
  | .say _ | .call _ => false

variable (working : Place) (ending : Ending) (w : World)

/-- All that an action can do to the files. -/
theorem files_cases (action : Action) :
    let after := (action.perform working ending w).1.files
    after = w.files ∨
      (∃ p, action = .makeDirectory p ∧ after = (w.files.ensureDirectory working p).1) ∨
      ∃ p contents, action = .write p contents ∧
        w.files.writeFile working p contents = .ok after := by
  cases action with
  | makeDirectory p =>
      by_cases null : hasNull p
      · exact Or.inl (by simp [perform, null])
      · exact Or.inr (Or.inl ⟨p, rfl, by simp [perform, null]⟩)
  | write p contents =>
      by_cases null : hasNull p
      · exact Or.inl (by simp [perform, null])
      · cases wrote : w.files.writeFile working p contents with
        | error refusal => exact Or.inl (by simp [perform, null, wrote])
        | ok files => exact Or.inr (Or.inr ⟨p, contents, rfl, by simp [perform, null, wrote]⟩)
  | say line => exact Or.inl rfl
  | call command =>
      left
      simp only [perform]
      split <;> rfl

theorem changes_perform (action : Action) :
    Changes ((action.perform working ending w).1.files.leadsTo working action.written?.toList)
      w.files (action.perform working ending w).1.files := by
  rcases files_cases working ending w action with
    same | ⟨p, rfl, made⟩ | ⟨p, contents, rfl, wrote⟩
  · rw [same]
    exact Changes.refl w.files
  · rw [made]
    exact FileTree.changes_ensureDirectory working w.files p
  · obtain ⟨place, located, changes⟩ := FileTree.changes_writeFile wrote
    refine changes.mono ?_
    intro other same
    cases same
    exact ⟨p, List.mem_singleton_self p, FileTree.locate_of_changes changes located⟩

theorem files_perform {action : Action} (aside : action.onFiles = false) :
    (action.perform working ending w).1.files = w.files := by
  rcases files_cases working ending w action with
    same | ⟨p, rfl, made⟩ | ⟨p, contents, rfl, wrote⟩
  · exact same
  · cases aside
  · cases aside

end Action

namespace Plan

variable (working : Place) (ending : Ending)

/-- What holds between the files before and after each action holds between those
    before and after the plan, however far it gets. -/
theorem files_related (related : FileTree → FileTree → Prop) (refl : ∀ t, related t t)
    (trans : ∀ t u v, related t u → related u v → related t v) {plan : Plan}
    (step : ∀ action ∈ plan, ∀ w : World,
      related w.files (action.perform working ending w).1.files) (w : World) :
    related w.files (plan.perform working ending w).1.files := by
  induction plan generalizing w with
  | nil => exact refl w.files
  | cons action plan ih =>
      obtain ⟨here, later⟩ := List.forall_mem_cons.mp step
      have first := here w
      rw [Plan.perform]
      split
      · next middle performed =>
          rw [performed] at first
          exact trans _ _ _ first (ih later middle)
      · next middle fault performed =>
          rw [performed] at first
          exact first

theorem changes_perform (w : World) (plan : Plan) :
    Changes ((plan.perform working ending w).1.files.leadsTo working
        (plan.filterMap Action.written?))
      w.files (plan.perform working ending w).1.files := by
  apply files_related working ending
    (fun t u => Changes (u.leadsTo working (plan.filterMap Action.written?)) t u)
  case refl => exact fun t => Changes.refl t
  case trans =>
    intro t u v first second
    exact (first.mono (FileTree.leadsTo_of_changes second)).trans second
  case step =>
    intro action member w
    refine (Action.changes_perform working ending w action).mono (FileTree.leadsTo_mono ?_)
    intro p writes
    exact List.mem_filterMap.mpr ⟨action, member, Option.mem_toList.mp writes⟩

theorem files_perform (w : World) {plan : Plan} (aside : ∀ action ∈ plan, action.onFiles = false) :
    (plan.perform working ending w).1.files = w.files := by
  apply files_related working ending (fun t u => u = t)
  case refl => exact fun t => rfl
  case trans => exact fun t u v first second => second.trans first
  case step =>
    intro action member w
    exact Action.files_perform working ending w (aside action member)

end Plan

namespace Project

/-- The files that a new project starts with. -/
def starters (path : Path) : List Path := [path.below [descriptorName], path.below [entryName]]

/-- A command line that asks for a new project, with options that are accepted and
    settle its directory. -/
def Creates (arguments : List String) (path : Path) : Prop :=
  ∃ options, arguments = "create" :: options ∧
    Reading.ofArguments flags (some defaultPath) options = .accepted (some path) []

/-- A command line that names a verb, with options that are accepted and settle the
    project's directory. -/
def Asks (verb : Verb) (arguments : List String) (path : Path) : Prop :=
  ∃ options, arguments = verb.name :: options ∧
    Reading.ofArguments flags (some defaultPath) options = .accepted (some path) []

theorem verb?_eq_some_iff {word : String} {verb : Verb} :
    verb? word = some verb ↔ word = verb.name := by
  constructor
  · intro found
    unfold verb? at found
    split at found
    · cases found; rfl
    · cases found; rfl
    · cases found; rfl
    · cases found
  · intro same
    subst same
    cases verb <;> rfl

theorem asks_iff {verb : Verb} {arguments : List String} {path : Path} :
    Intent.ofArguments arguments = .act verb path ↔ Asks verb arguments path := by
  constructor
  · intro asks
    cases arguments with
    | nil => cases asks
    | cons word options =>
        cases found : verb? word with
        | none => simp [Intent.ofArguments, found] at asks
        | some named =>
            cases reading : Reading.ofArguments flags (some defaultPath) options with
            | help | refused complaint => simp [Intent.ofArguments, found, reading] at asks
            | accepted settled leftovers =>
                cases leftovers with
                | cons leftover rest => simp [Intent.ofArguments, found, reading] at asks
                | nil =>
                    cases settled with
                    | none => simp [Intent.ofArguments, found, reading] at asks
                    | some directory =>
                        simp only [Intent.ofArguments, found, reading, Intent.act.injEq] at asks
                        obtain ⟨rfl, rfl⟩ := asks
                        exact ⟨options, by rw [verb?_eq_some_iff.mp found], reading⟩
  · intro asks
    obtain ⟨options, rfl, accepted⟩ := asks
    simp [Intent.ofArguments, verb?_eq_some_iff.mpr rfl, accepted]

theorem creates_iff {arguments : List String} {path : Path} :
    Intent.ofArguments arguments = .act .create path ↔ Creates arguments path :=
  asks_iff

/-- A command line that asks for a verb has the verb's plan carried out. -/
theorem run_of_act {verb : Verb} {arguments : List String} {path : Path} (working : Place)
    (ending : Ending) (w : World) (asks : Intent.ofArguments arguments = .act verb path) :
    run working ending w arguments =
      (((plan path verb).perform working ending w).1,
        ((plan path verb).perform working ending w).2.elim .finished (.failed <| .action ·)) := by
  simp only [run, asks]
  split <;> simp [*]

theorem written_create (path : Path) :
    (plan path .create).filterMap Action.written? = starters path := rfl

theorem aside_of_ne_create {verb : Verb} (path : Path) (other : verb ≠ .create) :
    ∀ action ∈ plan path verb, action.onFiles = false := by
  cases verb with
  | create => exact absurd rfl other
  | build => simp [plan, Action.onFiles]
  | start => simp [plan, Action.onFiles]

/-- Whatever the arguments, the tree and the end of the commands that are run: the
    tree stays as it is, or a project is created and no more changes than its two
    files and new directories. What a path led to before, it leads to afterwards. -/
theorem run_changes_starters (working : Place) (ending : Ending) (w : World)
    (arguments : List String) :
    let after := (run working ending w arguments).1.files
    after = w.files ∨
      ∃ path, Creates arguments path ∧
        Changes (after.leadsTo working (starters path)) w.files after := by
  intro after
  cases intent : Intent.ofArguments arguments with
  | overview | help | refuse | actNowhere =>
      left
      simp [after, run, intent]
  | act verb path =>
      have performed : after = ((plan path verb).perform working ending w).1.files := by
        simp only [after, run, intent]
        split <;> simp [*]
      cases verb with
      | create =>
          right
          refine ⟨path, creates_iff.mp intent, ?_⟩
          rw [performed, ← written_create]
          exact Plan.changes_perform working ending w (plan path .create)
      | build | start =>
          left
          rw [performed]
          exact Plan.files_perform working ending w (aside_of_ne_create path (by decide))

end Project

end Tron
