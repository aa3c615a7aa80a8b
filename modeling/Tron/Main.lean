import Tron.Project.Command

/-! # The program

Carries out the plan of a project command on the files that are there. This
program starts no others, so the toolchain's commands end as those of a program
that is not there.
-/

namespace Tron
namespace Project

/-- How a command ends where no program can be started. -/
def unstartable (c : Command) : Ending :=
  .notStarted .fileNotFound s!"cannot start {c.text}"

def printConsole (c : Console) : IO Unit := do
  IO.print c.stdout
  IO.eprint c.stderr

def carryOut : Action → IO Unit
  | .makeDirectory p => IO.FS.createDirAll p.text
  | .write p contents => IO.FS.writeFile p.text contents
  | .say line => IO.println line
  | .call command => printConsole (command.report {} (unstartable command)).1

end Project
end Tron

def main (arguments : List String) : IO UInt32 := do
  match Tron.Project.Intent.ofArguments arguments with
  | .overview =>
    IO.print Tron.Project.manual.help
    return 0
  | .help verb =>
    IO.print verb.manual.help
    return 0
  | .refuse text =>
    IO.eprint text
    return Tron.Project.refusedStatus.toUInt32
  | .actNowhere verb =>
    IO.eprintln (Tron.Project.Fault.nowhere verb).message
    return 1
  | .act verb path =>
    (Tron.Project.plan path verb).forM Tron.Project.carryOut
    return 0
