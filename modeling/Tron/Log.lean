/-! # Log records

What the server notes down: how grave it is, which part of the server speaks,
and the message.
-/

namespace Tron

/-- How grave a record is, from the least to the most. -/
inductive Level where
  | debug
  | info
  | warning
  | error
  deriving Repr, DecidableEq

namespace Level

def name : Level → String
  | .debug => "DEBUG"
  | .info => "INFO"
  | .warning => "WARNING"
  | .error => "ERROR"

def rank : Level → Nat
  | .debug => 0
  | .info => 1
  | .warning => 2
  | .error => 3

instance : LE Level := ⟨fun l m => l.rank ≤ m.rank⟩

instance (l m : Level) : Decidable (l ≤ m) := inferInstanceAs (Decidable (l.rank ≤ m.rank))

end Level

inductive Speaker where
  | server
  | declarations
  | documents
  deriving Repr, DecidableEq

def Speaker.name : Speaker → String
  | .server => "tron_lsp.server"
  | .declarations => "tron_lsp.declarations"
  | .documents => "tron_lsp.symbol_table"

structure LogRecord where
  level : Level
  speaker : Speaker
  message : String
  deriving Repr, DecidableEq

end Tron
