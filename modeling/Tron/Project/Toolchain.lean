import Tron.Project.Path

/-! # The toolchain

The language's compiler is a program of its own. It is run in a directory, and
what it writes is captured and told once it has ended.
-/

namespace Tron

/-- A program to run, with its arguments, and the directory to run it in. -/
structure Command where
  words : List String
  directory : Path
  deriving Repr, DecidableEq

inductive StartRefusal where
  | fileNotFound
  | notADirectory
  | permissionDenied
  | systemFailure
  | invalidValue
  deriving Repr, DecidableEq

inductive Ending where
  | finished (status : Int) (stdout stderr : String)
  | notStarted (refusal : StartRefusal) (message : String)
  deriving Repr, DecidableEq

/-- What has been written to the two streams of a terminal. -/
structure Console where
  stdout : String := ""
  stderr : String := ""
  deriving Repr, DecidableEq

namespace Console

def tell (c : Console) (line : String) : Console := { c with stdout := c.stdout ++ line ++ "\n" }

def warn (c : Console) (line : String) : Console := { c with stderr := c.stderr ++ line ++ "\n" }

end Console

/-- A failure to start that is not dealt with. -/
structure StartFault where
  refusal : StartRefusal
  message : String
  deriving Repr, DecidableEq

namespace Command

def missingStatus : Int := 127

/-- The command as the user would type it. -/
def text (c : Command) : String := " ".intercalate c.words

/-- Tell how a command ended, and give its status. A program that is not there, or
    whose directory is not there, counts as one that failed; any other failure to
    start is passed on. A program that succeeds has its output told only if it had
    nothing to complain of. -/
def report (c : Command) (console : Console) : Ending → Console × Except StartFault Int
  | .finished status stdout stderr =>
    let told :=
      if status ≠ 0 then
        let failed := console.warn s!"error: command {c.text} exited with {status}"
        if stderr.isEmpty then failed else failed.warn ("stderr: " ++ stderr)
      else if stderr.isEmpty then console.tell ("stdout: " ++ stdout)
      else console.warn ("stderr: " ++ stderr)
    (told, .ok status)
  | .notStarted refusal message =>
    match refusal with
    | .fileNotFound | .notADirectory => (console.warn ("error: " ++ message), .ok missingStatus)
    | _ => (console, .error ⟨refusal, message⟩)

end Command

end Tron
