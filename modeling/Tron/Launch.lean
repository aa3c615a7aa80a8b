import Tron.CommandLine.Reading
import Tron.Log
import Tron.Text.Blank

/-! # Launching the server

The command line of the server: how it talks to its client, and from which level
on it keeps a log. A port is written as people write whole numbers: an optional sign,
then decimal digits of any script with single underscores between them, blanks around
the whole. A start notes the release of the server.
-/

namespace Tron

namespace Text

def maxDigits : Nat := 4300

/-- The blanks that may surround a numeral: all but the information separators. -/
def isNumeralBlank (c : Char) : Bool :=
  isBlank c && !(0x1C ≤ c.toNat && c.toNat ≤ 0x1F)

/-- The values of a row of digits, which may have single underscores between them. -/
def digitRow? : Text → Option (List Nat)
  | [] => none
  | [c] => (digitValue? c).map ([·])
  | c :: '_' :: rest => do return (← digitValue? c) :: (← digitRow? rest)
  | c :: rest => do return (← digitValue? c) :: (← digitRow? rest)

/-- The number a row of digits stands for, unless there are too many of them. -/
def natural? (s : Text) : Option Nat := do
  let digits ← digitRow? s
  if digits.length ≤ maxDigits then some (digits.foldl (fun n d => 10 * n + d) 0) else none

def integer? (s : Text) : Option Int :=
  let s := s.dropWhile isNumeralBlank
  let s := (s.reverse.dropWhile isNumeralBlank).reverse
  match s with
  | '-' :: digits => (natural? digits).map fun n => -(n : Int)
  | '+' :: digits => (natural? digits).map fun n => (n : Int)
  | digits => (natural? digits).map fun n => (n : Int)

end Text

namespace Release

def version : String := "0.1.0"

def serverName : String := "tron-lsp"

def serverVersion : String := "v" ++ version

/-- The parts of the server that are for others to use. -/
def publicParts : List String := ["server", "completion", "formatting", "symbol_table"]

end Release

inductive Transport where
  | stdio
  | tcp (host : Option String) (port : Option Int)
  deriving Repr, DecidableEq

/-- What the command line asks for. A setting is `none` if its option came without
    a value. -/
structure LaunchSettings where
  tcp : Bool := false
  host : Option String := some "127.0.0.1"
  port : Option Int := some 2087
  level : Option Level := some .info
  deriving Repr, DecidableEq

namespace Launch

/-- The levels that the command line knows, by name. -/
def levels : List (String × Level) :=
  [("debug", .debug), ("info", .info), ("warning", .warning), ("error", .error)]

def takeHost (value : Option String) (s : LaunchSettings) : Except Complaint LaunchSettings :=
  .ok { s with host := value }

def takePort (value : Option String) (s : LaunchSettings) : Except Complaint LaunchSettings :=
  match value with
  | none => .ok { s with port := none }
  | some value =>
    match Text.integer? value.toList with
    | none => .error (.notInteger "--port" value)
    | some n => .ok { s with port := some n }

def takeLevel (value : Option String) (s : LaunchSettings) : Except Complaint LaunchSettings :=
  match value with
  | none => .ok { s with level := none }
  | some value =>
    match levels.find? fun l => l.1 = value with
    | none => .error (.notChoice "--log-level" value (levels.map Prod.fst))
    | some l => .ok { s with level := some l.2 }

def flags : List (Flag LaunchSettings) :=
  [.help,
    ⟨["--tcp"], .switch fun s => { s with tcp := true }⟩,
    ⟨["--host"], .value takeHost⟩,
    ⟨["--port"], .value takePort⟩,
    ⟨["--log-level"], .value takeLevel⟩]

def usage : String :=
  "usage: tron-lsp [-h] [--tcp] [--host HOST] [--port PORT]\n" ++
  "                [--log-level \x7bdebug,info,warning,error\x7d]\n"

def manual : Manual where
  program := "tron-lsp"
  usage := usage
  help := usage ++
    "\nTron Language Server\n" ++
    "\noptions:\n" ++
    "  -h, --help            show this help message and exit\n" ++
    "  --tcp                 Start server in TCP mode instead of stdio\n" ++
    "  --host HOST           Host to bind to in TCP mode (default: 127.0.0.1)\n" ++
    "  --port PORT           Port to listen on in TCP mode (default: 2087)\n" ++
    "  --log-level \x7bdebug,info,warning,error\x7d\n" ++
    "                        Logging level (default: info)\n"

/-- What a missing value looks like in the log. -/
def missingValue : String := "[]"

/-- The messages of a start. -/
def messages (s : LaunchSettings) : List String :=
  ["Iniciando Tron Language Server...", "tron-lsp package: " ++ Release.version] ++
    if s.tcp then
      ["Modo TCP em " ++ s.host.getD missingValue ++ ":" ++
        (s.port.map toString).getD missingValue]
    else []

/-- The log of a start: its messages, if the level lets them through. -/
def startLog (s : LaunchSettings) (level : Level) : List LogRecord :=
  if level ≤ .info then (messages s).map (⟨.info, .server, ·⟩) else []

def transport (s : LaunchSettings) : Transport := if s.tcp then .tcp s.host s.port else .stdio

inductive Outcome where
  | helped (text : String)
  | refused (text : String)
  | started (level : Level) (transport : Transport) (log : List LogRecord)
  /-- The option for the log level came without a value. -/
  | levelMissing
  deriving Repr, DecidableEq

def levelMissingMessage : String := "'list' object has no attribute 'upper'"

def run (arguments : List String) : Outcome :=
  match Reading.ofArguments flags {} arguments with
  | .help => .helped manual.help
  | .refused complaint => .refused (manual.refusal complaint)
  | .accepted settings [] =>
    match settings.level with
    | none => .levelMissing
    | some level => .started level (transport settings) (startLog settings level)
  | .accepted _ leftovers => .refused (manual.refusal (.unrecognized leftovers))

end Launch

end Tron
