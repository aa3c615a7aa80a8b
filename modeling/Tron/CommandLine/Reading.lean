import Tron.CommandLine.Argument

/-! # Reading a command line

The arguments are first looked at one by one, then taken from left to right. The
help option ends the reading as soon as it is reached, and so does a complaint;
arguments that nothing takes are collected.
-/

namespace Tron

/-- What comes of reading the arguments of a program. -/
inductive Reading (σ : Type) where
  | accepted (settings : σ) (leftovers : List String)
  | help
  | refused (complaint : Complaint)

namespace Reading

variable {σ : Type}

/-- An option of one letter that takes no value. -/
def letterSwitch? (flags : List (Flag σ)) (c : Char) : Option (Flag σ) :=
  (Argument.named? flags (String.ofList ['-', c])).filter fun f => !f.takesValue

/-- The options of a first option and of the letters run together with it. There
    has to be a letter, and each has to be an option that takes no value. -/
def runTogether (flags : List (Flag σ)) (f : Flag σ) :
    (letters : Text) → Except Complaint (List (Flag σ))
  | [] => .error (.valueIgnored f.title "")
  | c :: rest =>
    match letterSwitch? flags c with
    | none => .error (.valueIgnored f.title (String.ofList (c :: rest)))
    | some g =>
      if rest.isEmpty then .ok [f, g] else (runTogether flags g rest).map (f :: ·)

/-- The options meant by an option that takes no value and what it has attached. -/
def switches (flags : List (Flag σ)) (f : Flag σ) :
    Attached → Except Complaint (List (Flag σ))
  | .nothing => .ok [f]
  | .value text => .error (.valueIgnored f.title text)
  | .letters letters => runTogether flags f letters

/-- The settings after options that take no value, unless one of them is for help. -/
def setAll (settings : σ) : List (Flag σ) → Option σ
  | [] => some settings
  | f :: flags =>
    match f.effect with
    | .help => none
    | .switch set => setAll (set settings) flags
    | .value _ => setAll settings flags

def attachedText? : Attached → Option String
  | .nothing => none
  | .value text => some text
  | .letters letters => some (String.ofList letters)

/-- The value in the text attached to an option. -/
def valueIn (text : String) : Option String := if text = "--" then none else some text

def take (flags : List (Flag σ)) (settings : σ) (leftovers : List String) :
    List (Argument σ) → Reading σ
  | [] => .accepted settings leftovers
  | .option f attached :: rest =>
    match f.effect, attachedText? attached, rest with
    | .value takeValue, some text, rest =>
      match takeValue (valueIn text) settings with
      | .error complaint => .refused complaint
      | .ok settings => take flags settings leftovers rest
    | .value takeValue, none, .plain value :: rest =>
      match takeValue (some value) settings with
      | .error complaint => .refused complaint
      | .ok settings => take flags settings leftovers rest
    | .value _, none, _ => .refused (.valueExpected f.title)
    | _, _, rest =>
      match switches flags f attached with
      | .error complaint => .refused complaint
      | .ok found =>
        match setAll settings found with
        | none => .help
        | some settings => take flags settings leftovers rest
  | other :: rest => take flags settings (leftovers ++ other.leftover) rest

/-- Read the arguments of a program with these options, from these settings. -/
def ofArguments (flags : List (Flag σ)) (settings : σ) (arguments : List String) :
    Reading σ :=
  match Argument.classifyAll flags arguments with
  | .error complaint => .refused complaint
  | .ok found => take flags settings [] found

end Reading

end Tron
