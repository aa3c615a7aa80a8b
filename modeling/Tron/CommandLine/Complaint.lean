import Tron.Text.Quoted

/-! # Complaints

What can be wrong with the arguments of a program.
-/

namespace Tron

inductive Complaint where
  | ambiguous (argument : String) (candidates : List String)
  | valueExpected (option : String)
  | valueIgnored (option value : String)
  | notInteger (option value : String)
  | notChoice (option value : String) (choices : List String)
  /-- Arguments that are no options and that nothing takes. -/
  | unrecognized (arguments : List String)
  deriving Repr, DecidableEq

def Complaint.message : Complaint → String
  | .ambiguous argument candidates =>
    s!"ambiguous option: {argument} could match " ++ ", ".intercalate candidates
  | .valueExpected option => s!"argument {option}: expected one argument"
  | .valueIgnored option value =>
    s!"argument {option}: ignored explicit argument " ++ quote value
  | .notInteger option value => s!"argument {option}: invalid int value: " ++ quote value
  | .notChoice option value choices =>
    s!"argument {option}: invalid choice: " ++ quote value ++
      " (choose from " ++ ", ".intercalate (choices.map quote) ++ ")"
  | .unrecognized arguments => "unrecognized arguments: " ++ " ".intercalate arguments

/-- What a program tells about its use. -/
structure Manual where
  program : String
  usage : String
  help : String

/-- The text with which a program turns its arguments down. -/
def Manual.refusal (m : Manual) (c : Complaint) : String :=
  m.usage ++ s!"{m.program}: error: " ++ c.message ++ "\n"

end Tron
