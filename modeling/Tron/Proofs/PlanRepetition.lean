import Tron.Proofs.DirectoryMaking
import Tron.Proofs.ProjectEffects

/-! # Plans carried out again

An action is done where the directory that it makes is there, or the file that it
writes holds the contents. An action that succeeds is done, and stays done unless its
file is written once more. What is done changes nothing when it is tried again, and
what failed fails again. So a plan that never writes one file twice leaves the files
alone when it is carried out a second time, however far it got the first time.
-/

namespace Tron

/-- Two paths that never lead to the same place. -/
def Path.Apart (p q : Path) : Prop :=
  ∀ (t : FileTree) (working place : Place),
    t.locate working p = .ok place → t.locate working q ≠ .ok place

namespace FileTree

/-- A path leads to a file with these contents. -/
def Holds (t : FileTree) (working : Place) (p : Path) (contents : String) : Prop :=
  ∃ place, t.locate working p = .ok place ∧ t.entry? place = some (.file contents)

variable {t u : FileTree} {working : Place} {p : Path} {contents : String}

theorem holds_of_writeFile (wrote : t.writeFile working p contents = .ok u) :
    u.Holds working p contents := by
  obtain ⟨place, leads, changes⟩ := changes_writeFile wrote
  refine ⟨place, locate_of_changes changes leads, ?_⟩
  obtain ⟨same, leads', other, rfl⟩ := writeFile_eq_ok_iff.mp wrote
  cases leads.symm.trans leads'
  rw [entry?_put t (ne_nil_of_not_directory other), if_pos rfl]

theorem writeFile_of_holds (holds : t.Holds working p contents) :
    t.writeFile working p contents = .ok t := by
  obtain ⟨place, leads, here⟩ := holds
  have other : t.entry? place ≠ some .directory := by simp [here]
  refine writeFile_eq_ok_iff.mpr ⟨place, leads, other, ?_⟩
  cases place with
  | nil => exact absurd rfl (ne_nil_of_not_directory other)
  | cons name names => exact congrArg FileTree.mk (Table.insert_of_get? here).symm

theorem Holds.of_changes {paths : List Path} (holds : t.Holds working p contents)
    (changes : Changes (u.leadsTo working paths) t u) (apart : ∀ q ∈ paths, p.Apart q) :
    u.Holds working p contents := by
  obtain ⟨place, leads, here⟩ := holds
  have leads' := locate_of_changes changes leads
  refine ⟨place, leads', changes.contents place contents here ?_⟩
  intro member
  obtain ⟨q, listed, reaches⟩ := member
  exact apart q listed u working place leads' reaches

end FileTree

namespace Action

/-- What an action is for is there. -/
def Done (working : Place) (t : FileTree) : Action → Prop
  | .makeDirectory p => t.isDirectory working p = true
  | .write p contents => t.Holds working p contents
  | .say _ | .call _ => True

/-- The command that an action runs. -/
def command? : Action → Option Command
  | .call command => some command
  | _ => none

variable {working : Place} {ending ending' : Ending} {w w' : World} {action other : Action}

theorem command?_of_onFiles (onFiles : action.onFiles = true) : action.command? = none := by
  cases action with
  | makeDirectory | write | say => rfl
  | call => cases onFiles

theorem perform_makeDirectory {p : Path} (valid : hasNull p = false) :
    (makeDirectory p).perform working ending w =
      ({ w with files := (w.files.ensureDirectory working p).1 },
        (w.files.ensureDirectory working p).2.map .file) := by
  simp [perform, valid]

theorem done_of_perform (succeeds : (action.perform working ending w).2 = none) :
    action.Done working (action.perform working ending w).1.files := by
  cases action with
  | makeDirectory p =>
      cases valid : hasNull p with
      | true => simp [perform, valid] at succeeds
      | false =>
          rw [perform_makeDirectory valid] at succeeds ⊢
          exact (FileTree.ensureDirectory_fault_iff ..).mp (Option.map_eq_none_iff.mp succeeds)
  | write p contents =>
      cases valid : hasNull p with
      | true => simp [perform, valid] at succeeds
      | false =>
          cases wrote : w.files.writeFile working p contents with
          | error refusal => simp [perform, valid, wrote] at succeeds
          | ok files =>
              simp only [perform, valid, wrote, Done]
              exact FileTree.holds_of_writeFile wrote
  | say | call => trivial

theorem files_perform_of_done (done : action.Done working w.files) :
    (action.perform working ending w).1.files = w.files := by
  cases action with
  | makeDirectory p =>
      cases valid : hasNull p with
      | true => simp [perform, valid]
      | false =>
          rw [perform_makeDirectory valid]
          exact congrArg Prod.fst (FileTree.ensureDirectory_of_isDirectory done)
  | write p contents =>
      cases valid : hasNull p with
      | true => simp [perform, valid]
      | false => simp [perform, valid, FileTree.writeFile_of_holds done]
  | say | call => exact files_perform working ending w rfl

/-- An action that failed on the files fails again on what it left, and leaves it. -/
theorem perform_again_of_fault (onFiles : action.onFiles = true)
    (fails : (action.perform working ending w).2 ≠ none)
    (same : w'.files = (action.perform working ending w).1.files) :
    (action.perform working ending' w').2 ≠ none ∧
      (action.perform working ending' w').1.files = w'.files := by
  cases action with
  | makeDirectory p =>
      cases valid : hasNull p with
      | true => simp [perform, valid]
      | false =>
          rw [perform_makeDirectory valid] at fails same ⊢
          have settled : (w'.files.ensureDirectory working p).1 = w'.files := by
            rw [same]
            exact FileTree.ensureDirectory_again working w.files p
          -- whether there is a fault can be told from the tree, which is the same
          have alike : (w'.files.ensureDirectory working p).2 = none ↔
              (w.files.ensureDirectory working p).2 = none := by
            rw [FileTree.ensureDirectory_fault_iff, FileTree.ensureDirectory_fault_iff, settled, same]
          refine ⟨?_, settled⟩
          simpa [alike] using fails
  | write p contents =>
      cases valid : hasNull p with
      | true => simp [perform, valid]
      | false =>
          cases wrote : w.files.writeFile working p contents with
          | error refusal =>
              have kept : w'.files = w.files := by simpa [perform, valid, wrote] using same
              simp [perform, valid, kept, wrote]
          | ok files => simp [perform, valid, wrote] at fails
  | say | call => cases onFiles

/-- What is done stays done while other files are written. -/
theorem Done.perform (done : action.Done working w.files)
    (apart : ∀ p ∈ action.written?, ∀ q ∈ other.written?, p.Apart q) :
    action.Done working (other.perform working ending w).1.files := by
  have changes := other.changes_perform working ending w
  cases action with
  | makeDirectory p => exact FileTree.isDirectory_of_changes changes done
  | write p contents =>
      refine FileTree.Holds.of_changes done changes ?_
      intro q member
      exact apart p rfl q (Option.mem_toList.mp member)
  | say | call => trivial

theorem calls_perform (action : Action) :
    (action.perform working ending w).1.calls = w.calls ++ action.command?.toList := by
  cases action with
  | makeDirectory p => simp only [perform]; split <;> simp [command?]
  | write p contents =>
      simp only [perform]
      split
      · simp [command?]
      · split <;> simp [command?]
  | say line => simp [perform, command?]
  | call command => simp only [perform]; split <;> simp [command?]

end Action

namespace Plan

/-- No file is written twice. -/
def Apart (plan : Plan) : Prop :=
  plan.Pairwise fun action other => ∀ p ∈ action.written?, ∀ q ∈ other.written?, p.Apart q

/-- The commands that a plan comes to run, each with the files that are there when it
    is run. -/
def called (working : Place) (ending : Ending) (w : World) : Plan → List (FileTree × Command)
  | [] => []
  | action :: plan =>
      (action.command?.map fun command => (w.files, command)).toList ++
        match action.perform working ending w with
        | (w', none) => called working ending w' plan
        | (_, some _) => []

variable {working : Place} {ending ending' : Ending} {w w' : World} {action : Action}
  {plan front rest : Plan}

theorem perform_cons_of_ok (succeeds : (action.perform working ending w).2 = none) (plan : Plan) :
    perform working ending w (action :: plan) =
      perform working ending (action.perform working ending w).1 plan := by
  rw [perform]
  split
  · next performed => rw [performed]
  · next performed => simp [performed] at succeeds

theorem perform_cons_of_fault {fault : ActionFault}
    (fails : (action.perform working ending w).2 = some fault) (plan : Plan) :
    perform working ending w (action :: plan) = action.perform working ending w := by
  rw [perform]
  split
  · next performed => simp [performed] at fails
  · next performed => rw [performed]

/-- A plan has the fault of its first action that fails. -/
theorem fault_cons (working : Place) (ending : Ending) (w : World) (action : Action) (plan : Plan) :
    (perform working ending w (action :: plan)).2 =
      (action.perform working ending w).2.or
        (perform working ending (action.perform working ending w).1 plan).2 := by
  cases outcome : (action.perform working ending w).2 with
  | some fault => rw [perform_cons_of_fault outcome, outcome, Option.some_or]
  | none => rw [perform_cons_of_ok outcome, Option.none_or]

theorem called_cons_of_ok (succeeds : (action.perform working ending w).2 = none) (plan : Plan) :
    called working ending w (action :: plan) =
      (action.command?.map fun command => (w.files, command)).toList ++
        called working ending (action.perform working ending w).1 plan := by
  rw [called]
  split
  · next performed => rw [performed]
  · next performed => simp [performed] at succeeds

theorem called_cons_of_fault {fault : ActionFault}
    (fails : (action.perform working ending w).2 = some fault) (plan : Plan) :
    called working ending w (action :: plan) =
      (action.command?.map fun command => (w.files, command)).toList := by
  rw [called]
  split
  · next performed => simp [performed] at fails
  · exact List.append_nil _

theorem perform_append_of_ok (succeeds : (perform working ending w front).2 = none) (rest : Plan) :
    perform working ending w (front ++ rest) =
      perform working ending (perform working ending w front).1 rest := by
  induction front generalizing w with
  | nil => rfl
  | cons first front ih =>
      rw [fault_cons, Option.or_eq_none_iff] at succeeds
      obtain ⟨done, later⟩ := succeeds
      rw [List.cons_append, perform_cons_of_ok done, perform_cons_of_ok done, ih later]

theorem perform_append_of_fault {fault : ActionFault}
    (fails : (perform working ending w front).2 = some fault) (rest : Plan) :
    perform working ending w (front ++ rest) = perform working ending w front := by
  induction front generalizing w with
  | nil => cases fails
  | cons first front ih =>
      rw [List.cons_append]
      cases outcome : (first.perform working ending w).2 with
      | some fault => rw [perform_cons_of_fault outcome, perform_cons_of_fault outcome]
      | none =>
          rw [perform_cons_of_ok outcome] at fails
          rw [perform_cons_of_ok outcome, perform_cons_of_ok outcome, ih fails]

/-- Actions on the files run nothing, so what is run is run behind them. -/
theorem called_append_of_ok (onFiles : ∀ action ∈ front, action.onFiles = true)
    (succeeds : (perform working ending w front).2 = none) (rest : Plan) :
    called working ending w (front ++ rest) =
      called working ending (perform working ending w front).1 rest := by
  induction front generalizing w with
  | nil => rfl
  | cons first front ih =>
      obtain ⟨here, later⟩ := List.forall_mem_cons.mp onFiles
      rw [fault_cons, Option.or_eq_none_iff] at succeeds
      obtain ⟨done, succeeds⟩ := succeeds
      rw [List.cons_append, called_cons_of_ok done, perform_cons_of_ok done, ih later succeeds,
        Action.command?_of_onFiles here]
      rfl

theorem called_append_of_fault {fault : ActionFault}
    (onFiles : ∀ action ∈ front, action.onFiles = true)
    (fails : (perform working ending w front).2 = some fault) (rest : Plan) :
    called working ending w (front ++ rest) = [] := by
  induction front generalizing w with
  | nil => cases fails
  | cons first front ih =>
      obtain ⟨here, later⟩ := List.forall_mem_cons.mp onFiles
      rw [List.cons_append]
      cases outcome : (first.perform working ending w).2 with
      | some fault =>
          rw [called_cons_of_fault outcome, Action.command?_of_onFiles here]
          rfl
      | none =>
          rw [perform_cons_of_ok outcome] at fails
          rw [called_cons_of_ok outcome, ih later fails, Action.command?_of_onFiles here]
          rfl

/-- The record of the commands that were run is the one that the plan comes to. -/
theorem calls_perform (w : World) (plan : Plan) :
    (perform working ending w plan).1.calls =
      w.calls ++ (called working ending w plan).map Prod.snd := by
  have here (action : Action) (w : World) :
      ((action.command?.map fun command => (w.files, command)).toList).map Prod.snd =
        action.command?.toList := by
    cases action.command? <;> rfl
  induction plan generalizing w with
  | nil => exact (List.append_nil _).symm
  | cons action plan ih =>
      cases outcome : (action.perform working ending w).2 with
      | none =>
          rw [perform_cons_of_ok outcome, called_cons_of_ok outcome, ih, action.calls_perform,
            List.map_append, here, List.append_assoc]
      | some fault =>
          rw [perform_cons_of_fault outcome, called_cons_of_fault outcome, action.calls_perform,
            here]

/-- What is done stays done while other files are written. -/
theorem done_perform (done : action.Done working w.files)
    (apart : ∀ other ∈ plan, ∀ p ∈ action.written?, ∀ q ∈ other.written?, p.Apart q) :
    action.Done working (perform working ending w plan).1.files := by
  refine files_related working ending (fun t u => action.Done working t → action.Done working u)
    ?refl ?trans ?step w done
  case refl => exact fun t done => done
  case trans => exact fun t u v first second done => second (first done)
  case step => exact fun other member w done => done.perform (apart other member)

/-- After a plan has succeeded, all that it is for is there. -/
theorem done_of_perform (apart : Apart plan) (w : World)
    (succeeds : (perform working ending w plan).2 = none) :
    ∀ action ∈ plan, action.Done working (perform working ending w plan).1.files := by
  induction plan generalizing w with
  | nil => exact fun action member => by cases member
  | cons first plan ih =>
      obtain ⟨aside, later⟩ := List.pairwise_cons.mp apart
      rw [fault_cons, Option.or_eq_none_iff] at succeeds
      obtain ⟨done, succeeds⟩ := succeeds
      rw [perform_cons_of_ok done]
      intro action member
      cases member with
      | head => exact done_perform (Action.done_of_perform done) aside
      | tail _ member => exact ih later _ succeeds action member

/-- A plan whose commands come last changes no files when it is carried out on what it
    left before. -/
theorem files_perform_again (onFiles : ∀ action ∈ front, action.onFiles = true)
    (aside : ∀ action ∈ rest, action.onFiles = false) (apart : Apart (front ++ rest))
    (w w' : World) (same : w'.files = (perform working ending w (front ++ rest)).1.files) :
    (perform working ending' w' (front ++ rest)).1.files = w'.files := by
  induction front generalizing w w' with
  | nil => exact files_perform working ending' w' aside
  | cons first front ih =>
      obtain ⟨here, later⟩ := List.forall_mem_cons.mp onFiles
      obtain ⟨others, apart⟩ := List.pairwise_cons.mp apart
      rw [List.cons_append] at same ⊢
      cases outcome : (first.perform working ending w).2 with
      | some fault =>
          rw [perform_cons_of_fault outcome] at same
          have fails : (first.perform working ending w).2 ≠ none := by simp [outcome]
          obtain ⟨again, kept⟩ : (first.perform working ending' w').2 ≠ none ∧
              (first.perform working ending' w').1.files = w'.files :=
            Action.perform_again_of_fault here fails same
          obtain ⟨fault', outcome'⟩ := Option.ne_none_iff_exists'.mp again
          rw [perform_cons_of_fault outcome', kept]
      | none =>
          rw [perform_cons_of_ok outcome] at same
          have done : first.Done working w'.files :=
            same ▸ done_perform (Action.done_of_perform outcome) others
          have kept : (first.perform working ending' w').1.files = w'.files :=
            Action.files_perform_of_done done
          cases outcome' : (first.perform working ending' w').2 with
          | some fault' => rw [perform_cons_of_fault outcome', kept]
          | none =>
              rw [perform_cons_of_ok outcome', ← kept]
              exact ih later apart _ _ (kept.trans same)

end Plan

end Tron
