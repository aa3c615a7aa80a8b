import Tron.Proofs.PlanRepetition

/-! # Creating a project

A project's two files stand at different places, whatever its directory is called. So
the toolchain is installed only where the directory and both files are in place, and
to create the project once more changes nothing, whether the first time succeeded or
broke off somewhere.
-/

namespace Tron

theorem Path.apart_below (p : Path) {name other : String} (down : name ≠ "..")
    (down' : other ≠ "..") (different : name ≠ other) :
    (p.below [name]).Apart (p.below [other]) := by
  intro t working place leads leads'
  have follows := FileTree.follow_of_locate leads
  have follows' := FileTree.follow_of_locate leads'
  obtain ⟨above, -, -, here⟩ := FileTree.exists_of_follow_append follows
  obtain ⟨above', -, -, here'⟩ := FileTree.exists_of_follow_append follows'
  have same : above ++ [name] = above' ++ [other] := (here down).symm.trans (here' down')
  exact different (by simpa using List.append_inj_right' same rfl)

namespace Action

variable {working : Place} {ending : Ending} {w : World} {p : Path}

theorem hasNull_below (null : hasNull p = true) {more : List String} (further : more ≠ []) :
    hasNull (p.below more) = true := by
  have named : p.names ≠ [] := by
    intro bare
    unfold hasNull at null
    rcases Path.text_of_names_nil bare with text | text | text
    all_goals
      rw [text] at null
      revert null
      decide
  unfold hasNull at null ⊢
  rw [Path.text_below named further, String.toList_append, String.toList_append,
    List.append_assoc]
  exact List.contains_iff_mem.mpr (List.mem_append_left _ (List.contains_iff_mem.mp null))

theorem perform_makeDirectory_eq_none_iff :
    ((makeDirectory p).perform working ending w).2 = none ↔
      hasNull p = false ∧
        ((makeDirectory p).perform working ending w).1.files.isDirectory working p = true := by
  cases valid : hasNull p with
  | true => simp [perform, valid]
  | false =>
      rw [perform_makeDirectory valid]
      simpa using FileTree.ensureDirectory_fault_iff working w.files p

theorem hasNull_of_perform_write {contents : String}
    (succeeds : ((write p contents).perform working ending w).2 = none) : hasNull p = false := by
  cases valid : hasNull p with
  | false => rfl
  | true => simp [perform, valid] at succeeds

end Action

namespace Project

variable {working : Place} {ending : Ending} {path : Path}

/-- What is done before anything is installed. -/
def groundwork (path : Path) : Plan :=
  [.makeDirectory path, .write (path.below [descriptorName]) descriptor,
    .write (path.below [entryName]) entrySource]

/-- What is said and run once the project's files are in place. -/
def installation (path : Path) : Plan :=
  [.say s!"Created {descriptorName} and {entryName} in {path.text}",
    .call ⟨["npm", "install", toolchainPackage], path⟩]

theorem plan_create (path : Path) :
    plan path .create = groundwork path ++ installation path := rfl

theorem onFiles_groundwork (path : Path) : ∀ action ∈ groundwork path, action.onFiles = true := by
  simp [groundwork, Action.onFiles]

theorem apart_create (path : Path) : Plan.Apart (plan path .create) := by
  have files : (starters path).Pairwise Path.Apart :=
    List.pairwise_pair.mpr (path.apart_below (by decide) (by decide) (by decide))
  rw [← written_create, List.pairwise_filterMap] at files
  exact files

/-- To create a project on what is left of creating it before changes nothing. -/
theorem files_run_again {arguments : List String} (creates : Creates arguments path)
    (working : Place) (ending ending' : Ending) (w w' : World)
    (same : w'.files = (run working ending w arguments).1.files) :
    (run working ending' w' arguments).1.files = w'.files := by
  have asks := creates_iff.mpr creates
  have aside : ∀ action ∈ installation path, action.onFiles = false := by
    simp [installation, Action.onFiles]
  rw [run_of_act working ending w asks, plan_create] at same
  rw [run_of_act working ending' w' asks, plan_create]
  exact Plan.files_perform_again (onFiles_groundwork path) aside (apart_create path) w w' same

/-- What is to be installed is called for once, and changes no files. -/
theorem called_installation (working : Place) (ending : Ending) (path : Path) (w : World) :
    Plan.called working ending w (installation path) =
        [(w.files, ⟨["npm", "install", toolchainPackage], path⟩)] ∧
      ((installation path).perform working ending w).1.files = w.files := by
  constructor
  · simp only [installation, Plan.called, Action.perform, Action.command?]
    split <;> simp
  · apply Plan.files_perform
    simp [installation, Action.onFiles]

/-- Where the groundwork succeeds, one command is run, and the files are in place. -/
theorem called_of_groundwork {w : World}
    (succeeds : ((groundwork path).perform working ending w).2 = none) :
    let after := ((plan path .create).perform working ending w).1.files
    Plan.called working ending w (plan path .create) =
        [(after, ⟨["npm", "install", toolchainPackage], path⟩)] ∧
      after.Holds working (path.below [descriptorName]) descriptor ∧
      after.Holds working (path.below [entryName]) entrySource := by
  intro after
  have called := Plan.called_append_of_ok (onFiles_groundwork path) succeeds (installation path)
  have performed := Plan.perform_append_of_ok succeeds (installation path)
  obtain ⟨once, kept⟩ :=
    called_installation working ending path ((groundwork path).perform working ending w).1
  have same : after = ((groundwork path).perform working ending w).1.files := by
    rw [← kept, ← performed]
    rfl
  have apart : Plan.Apart (groundwork path ++ installation path) := apart_create path
  have done := Plan.done_of_perform (List.pairwise_append.mp apart).1 w succeeds
  rw [plan_create, called, once, same]
  exact ⟨rfl, done _ (.tail _ (.head _)), done _ (.tail _ (.tail _ (.head _)))⟩

/-- Where the groundwork fails, nothing else is done. -/
theorem called_of_groundwork_fault {w : World} {fault : ActionFault}
    (fails : ((groundwork path).perform working ending w).2 = some fault) :
    Plan.called working ending w (plan path .create) = [] ∧
      ((plan path .create).perform working ending w).2 = some fault := by
  rw [plan_create, Plan.called_append_of_fault (onFiles_groundwork path) fails,
    Plan.perform_append_of_fault fails]
  exact ⟨rfl, fails⟩

section Groundwork

variable (working : Place) (ending : Ending) (w : World) (path : Path)

/-- What comes of making a project's directory. -/
def made : World × Option ActionFault :=
  (Action.makeDirectory path).perform working ending w

/-- What comes of writing its descriptor after that. -/
def described : World × Option ActionFault :=
  (Action.write (path.below [descriptorName]) descriptor).perform working ending
    (made working ending w path).1

/-- What comes of writing its first source file after that. -/
def entered : World × Option ActionFault :=
  (Action.write (path.below [entryName]) entrySource).perform working ending
    (described working ending w path).1

theorem fault_groundwork :
    ((groundwork path).perform working ending w).2 =
      (made working ending w path).2.or
        ((described working ending w path).2.or (entered working ending w path).2) := by
  have nothing (w : World) : (Plan.perform working ending w []).2 = none := rfl
  simp only [groundwork, Plan.fault_cons, nothing, Option.or_none]
  rfl

/-- A path that a file below it can be written through has no null character in it. So
    the first action succeeds exactly if the directory is there afterwards. -/
theorem groundwork_eq_none_iff :
    ((groundwork path).perform working ending w).2 = none ↔
      (made working ending w path).1.files.isDirectory working path = true ∧
        (described working ending w path).2 = none ∧
        (entered working ending w path).2 = none := by
  have directory : (made working ending w path).2 = none ↔ Action.hasNull path = false ∧
      (made working ending w path).1.files.isDirectory working path = true :=
    Action.perform_makeDirectory_eq_none_iff
  rw [fault_groundwork, Option.or_eq_none_iff, Option.or_eq_none_iff, directory]
  constructor
  · intro succeeds
    exact ⟨succeeds.1.2, succeeds.2⟩
  · intro succeeds
    obtain ⟨there, written, written'⟩ := succeeds
    have valid := Action.hasNull_of_perform_write written
    cases null : Action.hasNull path with
    | false => exact ⟨⟨rfl, there⟩, written, written'⟩
    | true => rw [Action.hasNull_below null (by simp)] at valid; cases valid

end Groundwork

/-- To create a project is to call for its toolchain once, exactly if its directory is
    there after it was made sure of and both files were written. They are in place at
    that time, whatever was there before. In any other case nothing is called for, and
    the program ends with the fault of the first action that failed. Either way the
    same command line changes no files when it is given again. -/
theorem create_installs_and_repeats {arguments : List String} {path : Path}
    (creates : Creates arguments path) (working : Place) (ending : Ending) (w : World) :
    let after := run working ending w arguments
    let called := Plan.called working ending w (plan path .create)
    let directory := made working ending w path
    let descriptorFile := described working ending w path
    let entryFile := entered working ending w path
    let ready := directory.1.files.isDirectory working path = true ∧
      descriptorFile.2 = none ∧ entryFile.2 = none
    after.1.calls = w.calls ++ called.map Prod.snd ∧
    (ready → called = [(after.1.files, ⟨["npm", "install", "tron-lang"], path⟩)] ∧
      after.1.files.Holds working (path.below ["tron.toml"]) descriptor ∧
      after.1.files.Holds working (path.below ["main.tron"]) entrySource) ∧
    (¬ ready → called = [] ∧ ∃ fault,
      directory.2.or (descriptorFile.2.or entryFile.2) = some fault ∧
        after.2 = .failed (.action fault)) ∧
    ∀ (ending' : Ending) (w' : World), w'.files = after.1.files →
      (run working ending' w' arguments).1.files = after.1.files := by
  intro after called directory descriptorFile entryFile ready
  have asks := creates_iff.mpr creates
  have ran : after = _ := run_of_act working ending w asks
  have succeeds : ((groundwork path).perform working ending w).2 = none ↔ ready :=
    groundwork_eq_none_iff working ending w path
  refine ⟨?_, ?_, ?_, ?_⟩
  · rw [ran]
    exact Plan.calls_perform w (plan path .create)
  · intro there
    rw [ran]
    exact called_of_groundwork (succeeds.mpr there)
  · intro missing
    obtain ⟨fault, fails⟩ := Option.ne_none_iff_exists'.mp (mt succeeds.mp missing)
    obtain ⟨nothing, stops⟩ := called_of_groundwork_fault fails
    refine ⟨nothing, fault, (fault_groundwork working ending w path).symm.trans fails, ?_⟩
    rw [ran, stops]
    rfl
  · intro ending' w' same
    rw [files_run_again creates working ending ending' w w' same, same]

/-- There is a directory to work in and nothing else. -/
def fresh : World := { files := ⟨⟨[(["work"], .directory)], by decide⟩⟩ }

/-- A directory stands in the place of a project's first source file. -/
def obstructed : World where
  files := ⟨⟨[(["work"], .directory), (["work", "tron.toml"], .file "old"),
    (["work", "main.tron"], .directory)], by decide⟩⟩

/-- Two directories are missing on the way. -/
def deepPath : Path := .ofString "a/b"

/-- A directory is missing, and a file stands where a further one would have to be. -/
def brokenPath : Path := .ofString "new/../tron.toml/x"

/-- The directories on a path are made from the top down. What is made before a fault
    stays, and is not made again. -/
theorem create_installs_and_repeats_obstructed :
    let create := fun w options => run ["work"] (.finished 0 "" "") w ("create" :: options)
    (create fresh []).1.calls = [⟨["npm", "install", "tron-lang"], defaultPath⟩] ∧
    (create fresh []).1.files.Holds ["work"] (defaultPath.below ["tron.toml"]) descriptor ∧
    (create fresh ["--path", "a/b"]).1.calls =
      [⟨["npm", "install", "tron-lang"], deepPath⟩] ∧
    (create fresh ["--path", "a/b"]).1.files.Holds ["work"] (deepPath.below ["main.tron"])
      entrySource ∧
    (create obstructed []).1.calls = [] ∧
    (∃ fault, (create obstructed []).2 = .failed (.action fault)) ∧
    (create { files := (create obstructed []).1.files } []).1.files =
      (create obstructed []).1.files ∧
    (create obstructed ["--path", "new/../tron.toml/x"]).1.calls = [] ∧
    (create obstructed ["--path", "new/../tron.toml/x"]).2 =
      .failed (.action (.file ⟨.exists, .ofString "new/../tron.toml"⟩)) ∧
    (create obstructed ["--path", "new/../tron.toml/x"]).1.files.entry? ["work", "new"] =
      some .directory ∧
    (create { files := (create obstructed ["--path", "new/../tron.toml/x"]).1.files }
        ["--path", "new/../tron.toml/x"]).1.files =
      (create obstructed ["--path", "new/../tron.toml/x"]).1.files := by
  intro create
  have here : Creates ["create"] defaultPath := ⟨[], rfl, rfl⟩
  have deep : Creates ["create", "--path", "a/b"] deepPath := ⟨_, rfl, rfl⟩
  have broken : Creates ["create", "--path", "new/../tron.toml/x"] brokenPath := ⟨_, rfl, rfl⟩
  obtain ⟨calls, installs, -, -⟩ :=
    create_installs_and_repeats here ["work"] (.finished 0 "" "") fresh
  obtain ⟨deepCalls, deepInstalls, -, -⟩ :=
    create_installs_and_repeats deep ["work"] (.finished 0 "" "") fresh
  obtain ⟨noCalls, -, fails, again⟩ :=
    create_installs_and_repeats here ["work"] (.finished 0 "" "") obstructed
  obtain ⟨brokenCalls, -, breaks, brokenAgain⟩ :=
    create_installs_and_repeats broken ["work"] (.finished 0 "" "") obstructed
  obtain ⟨once, holds, -⟩ := installs (by decide +kernel)
  obtain ⟨deepOnce, -, deepHolds⟩ := deepInstalls (by decide +kernel)
  obtain ⟨nothing, fault, -, failed⟩ := fails (by decide +kernel)
  obtain ⟨brokenNothing, brokenFault, first, brokenFailed⟩ := breaks (by decide +kernel)
  have stops : (made ["work"] (.finished 0 "" "") obstructed brokenPath).2 =
      some (.file ⟨.exists, .ofString "new/../tron.toml"⟩) := by decide +kernel
  rw [stops] at first
  cases first
  rw [once] at calls
  rw [deepOnce] at deepCalls
  rw [nothing] at noCalls
  rw [brokenNothing] at brokenCalls
  exact ⟨calls, holds, deepCalls, deepHolds, noCalls, ⟨fault, failed⟩, again _ _ rfl,
    brokenCalls, brokenFailed, by decide +kernel, brokenAgain _ _ rfl⟩

end Project

end Tron
