import Tron.Project.FileTree
import Tron.Project.Toolchain

/-! # Plans

What a project command does, as a list of actions that are carried out one after
another up to the first that fails. What was done before a failure stays done.
-/

namespace Tron

inductive Action where
  | makeDirectory (path : Path)
  | write (path : Path) (contents : String)
  | say (line : String)
  | call (command : Command)
  deriving Repr, DecidableEq

abbrev Plan := List Action

/-- What actions bear on: files, the terminal, and the commands run so far. -/
structure World where
  files : FileTree := ∅
  console : Console := {}
  calls : List Command := []

instance : Inhabited World := ⟨{}⟩

inductive ActionFault where
  /-- A path with a null character in it, which no file can have. -/
  | nullInPath
  | file (fault : FileFault)
  | start (fault : StartFault)
  deriving Repr, DecidableEq

def ActionFault.message : ActionFault → String
  | .nullInPath => "embedded null byte"
  | .file fault => fault.message
  | .start fault => fault.message

namespace Action

/-- Whether a path can be handed to the system. -/
def hasNull (p : Path) : Bool := p.text.toList.contains (Char.ofNat 0)

/-- Carry out an action from a working directory, where commands end as given. -/
def perform (working : Place) (ending : Ending) (w : World) :
    Action → World × Option ActionFault
  | .makeDirectory p =>
    if hasNull p then (w, some .nullInPath)
    else
      let (files, fault) := w.files.ensureDirectory working p
      ({ w with files }, fault.map .file)
  | .write p contents =>
    if hasNull p then (w, some .nullInPath)
    else
      match w.files.writeFile working p contents with
      | .ok files => ({ w with files }, none)
      | .error refusal => (w, some (.file ⟨refusal, p⟩))
  | .say line => ({ w with console := w.console.tell line }, none)
  | .call command =>
    let (console, result) := command.report w.console ending
    let called := { w with console, calls := w.calls ++ [command] }
    match result with
    | .ok _ => (called, none)
    | .error fault => (called, some (.start fault))

end Action

/-- Carry out the actions of a plan up to the first that fails. -/
def Plan.perform (working : Place) (ending : Ending) (w : World) :
    Plan → World × Option ActionFault
  | [] => (w, none)
  | action :: plan =>
    match action.perform working ending w with
    | (w', none) => Plan.perform working ending w' plan
    | (w', some fault) => (w', some fault)

end Tron
