import Tron.CommandLine.Reading
import Tron.Project.Scaffold

/-! # The project command

`tron create`, `tron build` and `tron start`, each with the directory of the
project. Anything else in the place of the verb gets the help text.
-/

namespace Tron
namespace Project

/-- The verb that a word stands for. -/
def verb? : String → Option Verb
  | "create" => some .create
  | "build" => some .build
  | "start" => some .start
  | _ => none

def Verb.name : Verb → String
  | .create => "create"
  | .build => "build"
  | .start => "start"

/-- The options of every verb. They settle the project's directory, which is `none`
    if the option for it came without a value. -/
def flags : List (Flag (Option Path)) :=
  [.help, ⟨["--path"], .value fun value _ => .ok (value.map Path.ofString)⟩]

/-- The project's directory where nothing is said of it. -/
def defaultPath : Path := ⟨.here, []⟩

/-- What the program tells about its use. -/
def manual : Manual where
  program := "tron"
  usage := "usage: tron [-h] \x7bcreate,build,start,help\x7d ...\n"
  help :=
    "usage: tron [-h] \x7bcreate,build,start,help\x7d ...\n" ++
    "\nCreate, build and run Tron projects\n" ++
    "\npositional arguments:\n" ++
    "  \x7bcreate,build,start,help\x7d\n" ++
    "    create              Create tron.toml and main.tron, install the toolchain\n" ++
    "    build               Build the toolchain with cargo\n" ++
    "    start               Run the project through the toolchain\n" ++
    "    help                Show this help\n" ++
    "\noptions:\n" ++
    "  -h, --help            show this help message and exit\n"

/-- What the program tells about the use of one verb. -/
def Verb.manual (v : Verb) : Manual where
  program := s!"tron {v.name}"
  usage := s!"usage: tron {v.name} [-h] [--path PATH]\n"
  help :=
    s!"usage: tron {v.name} [-h] [--path PATH]\n" ++
    "\noptions:\n" ++
    "  -h, --help   show this help message and exit\n" ++
    "  --path PATH  Project directory (default: current directory)\n"

/-- What a command line comes to before anything is done. -/
inductive Intent where
  /-- Show the program's help text. -/
  | overview
  /-- Show a verb's help text. -/
  | help (verb : Verb)
  /-- Turn the arguments down with a text. -/
  | refuse (text : String)
  /-- Do something with a project. -/
  | act (verb : Verb) (path : Path)
  /-- Do something with a project that has no directory. -/
  | actNowhere (verb : Verb)
  deriving Repr, DecidableEq

/-- What a command line asks for. -/
def Intent.ofArguments : List String → Intent
  | [] => .overview
  | word :: arguments =>
    match verb? word with
    | none => .overview
    | some verb =>
      match Reading.ofArguments flags (some defaultPath) arguments with
      | .help => .help verb
      | .refused complaint => .refuse (verb.manual.refusal complaint)
      | .accepted (some path) [] => .act verb path
      | .accepted none [] => .actNowhere verb
      | .accepted _ leftovers => .refuse (manual.refusal (.unrecognized leftovers))

/-- Why the program breaks off. -/
inductive Fault where
  | action (fault : ActionFault)
  /-- There is no directory to work in. -/
  | nowhere (verb : Verb)
  deriving Repr, DecidableEq

/-- What is said of it. -/
def Fault.message : Fault → String
  | .action fault => fault.message
  | .nowhere .create => "'list' object has no attribute 'mkdir'"
  | .nowhere _ => "unsupported operand type(s) for /: 'list' and 'PosixPath'"

/-- How the program ends. -/
inductive Outcome where
  /-- It has done its work. -/
  | finished
  /-- It stops at its arguments, with a status. -/
  | stopped (status : Nat)
  | failed (fault : Fault)
  deriving Repr, DecidableEq

/-- The status of a program that turns its arguments down. -/
def refusedStatus : Nat := 2

/-- Run the program with arguments, where commands end as given. -/
def run (working : Place) (ending : Ending) (w : World) (arguments : List String) :
    World × Outcome :=
  match Intent.ofArguments arguments with
  | .overview => ({ w with console.stdout := w.console.stdout ++ manual.help }, .finished)
  | .help verb => ({ w with console.stdout := w.console.stdout ++ verb.manual.help }, .stopped 0)
  | .refuse text =>
    ({ w with console.stderr := w.console.stderr ++ text }, .stopped refusedStatus)
  | .act verb path =>
    match Plan.perform working ending w (plan path verb) with
    | (w', none) => (w', .finished)
    | (w', some fault) => (w', .failed (.action fault))
  | .actNowhere verb => (w, .failed (.nowhere verb))

end Project
end Tron
