import Tron.CommandLine.Complaint
import Tron.Text.Basic

/-! # Arguments

Each argument of a program is an option, plain, or unknown. An option may be
shortened as long as it can be no other one, and may have its value attached
after `=`; behind a one-letter option more letters may follow. What starts with a
dash is plain only if it is a lone dash, a negative number, or holds a space and
names no option. The marker `--` makes everything behind it plain.

The digits of a number may be those of any script. The characters of the Unicode
category Nd stand in runs of ten, from the digit zero to the digit nine of one script.
-/

namespace Tron

/-- The code points of the zeros of all scripts. -/
def digitZeros : List Nat :=
  [0x0030, 0x0660, 0x06F0, 0x07C0, 0x0966, 0x09E6, 0x0A66, 0x0AE6, 0x0B66, 0x0BE6,
  0x0C66, 0x0CE6, 0x0D66, 0x0DE6, 0x0E50, 0x0ED0, 0x0F20, 0x1040, 0x1090, 0x17E0,
  0x1810, 0x1946, 0x19D0, 0x1A80, 0x1A90, 0x1B50, 0x1BB0, 0x1C40, 0x1C50, 0xA620,
  0xA8D0, 0xA900, 0xA9D0, 0xA9F0, 0xAA50, 0xABF0, 0xFF10, 0x104A0, 0x10D30, 0x11066,
  0x110F0, 0x11136, 0x111D0, 0x112F0, 0x11450, 0x114D0, 0x11650, 0x116C0, 0x11730,
  0x118E0, 0x11950, 0x11C50, 0x11D50, 0x11DA0, 0x16A60, 0x16AC0, 0x16B50, 0x1D7CE,
  0x1D7D8, 0x1D7E2, 0x1D7EC, 0x1D7F6, 0x1E140, 0x1E2F0, 0x1E950, 0x1FBF0]

def digitValue? (c : Char) : Option Nat :=
  (digitZeros.find? fun first => first ≤ c.toNat && c.toNat ≤ first + 9).map (c.toNat - ·)

def isDigit (c : Char) : Bool := (digitValue? c).isSome

/-- A digit's value has one decimal place. -/
theorem digitValue?_lt {c : Char} {n : Nat} (h : digitValue? c = some n) : n < 10 := by
  obtain ⟨first, hz, rfl⟩ := Option.map_eq_some_iff.1 h
  have := List.find?_some hz
  simp only [Bool.and_eq_true, decide_eq_true_eq] at this
  omega

/-- What an option does to the settings of type `σ` of a program. -/
inductive Effect (σ : Type) where
  | help
  | switch (set : σ → σ)
  /-- An option with one value, which is missing if what is attached for it is
      the marker: a marker is dropped wherever a value is read. -/
  | value (take : Option String → σ → Except Complaint σ)

structure Flag (σ : Type) where
  names : List String
  effect : Effect σ

namespace Flag

variable {σ : Type}

/-- The option as complaints name it. -/
def title (f : Flag σ) : String := "/".intercalate f.names

def takesValue (f : Flag σ) : Bool :=
  match f.effect with
  | .value _ => true
  | _ => false

def help : Flag σ := ⟨["-h", "--help"], .help⟩

end Flag

/-- What an option has attached to it. -/
inductive Attached where
  | nothing
  /-- What follows the equals sign behind a long name. -/
  | value (text : String)
  /-- What follows a one-letter name, or the equals sign behind it. -/
  | letters (text : Text)
  deriving Repr, DecidableEq

/-- An argument of a program, seen by itself. -/
inductive Argument (σ : Type) where
  | plain (text : String)
  | marker
  | unknown (text : String)
  | option (flag : Flag σ) (attached : Attached)

namespace Argument

variable {σ : Type}

def spellings (flags : List (Flag σ)) : List (String × Flag σ) :=
  flags.flatMap fun f => f.names.map fun name => (name, f)

def named? (flags : List (Flag σ)) (name : String) : Option (Flag σ) :=
  ((spellings flags).find? fun s => s.1 = name).map Prod.snd

def isShort (name : String) : Bool :=
  match name.toList with
  | ['-', c] => c != '-'
  | _ => false

/-- A text cut at its first equals sign. -/
def cutAtEquals (s : String) : String × Attached :=
  match Text.upTo? '=' s.toList with
  | none => (s, .nothing)
  | some (before, after) =>
    let name := String.ofList before
    (name, if isShort name then .letters after else .value (String.ofList after))

/-- The option of exactly this name, or of the name before its equals sign. -/
def verbatim? (flags : List (Flag σ)) (s : String) : Option (Argument σ) :=
  match named? flags s with
  | some f => some (.option f .nothing)
  | none =>
    let (name, attached) := cutAtEquals s
    (named? flags name).map fun f => .option f attached

/-- The options that an argument can be short for, by name. After two dashes that
    is any name it starts. After one dash it is also a one-letter option with more
    letters behind it. -/
def candidates (flags : List (Flag σ)) (s : String) : List (String × Argument σ) :=
  match s.toList with
  | '-' :: '-' :: _ =>
    let (stem, attached) := cutAtEquals s
    (spellings flags).filterMap fun (name, f) =>
      if stem.toList.isPrefixOf name.toList then some (name, .option f attached) else none
  | '-' :: c :: rest =>
    (spellings flags).filterMap fun (name, f) =>
      if name = String.ofList ['-', c] then some (name, .option f (.letters rest))
      else if s.toList.isPrefixOf name.toList then some (name, .option f .nothing)
      else none
  | _ => []

def isNegativeNumber (s : Text) : Bool :=
  match s with
  | '-' :: number =>
    let number := if number.getLast? = some '\n' then number.dropLast else number
    match number.dropWhile isDigit with
    | [] => !number.isEmpty
    | '.' :: places => !places.isEmpty && places.all isDigit
    | _ => false
  | _ => false

/-- What an argument is that stands before any marker. -/
def classify (flags : List (Flag σ)) (s : String) : Except Complaint (Argument σ) :=
  if s.toList.head? ≠ some '-' || s = "-" then .ok (.plain s)
  else
    match verbatim? flags s with
    | some argument => .ok argument
    | none =>
      match candidates flags s with
      | [(_, argument)] => .ok argument
      | [] =>
        if isNegativeNumber s.toList || s.toList.contains ' ' then .ok (.plain s)
        else .ok (.unknown s)
      | several => .error (.ambiguous s (several.map Prod.fst))

/-- What the arguments of a program are, or the first complaint about one. -/
def classifyAll (flags : List (Flag σ)) : List String → Except Complaint (List (Argument σ))
  | [] => .ok []
  | s :: rest =>
    if s = "--" then .ok (.marker :: rest.map .plain)
    else do
      let first ← classify flags s
      let others ← classifyAll flags rest
      return first :: others

def leftover : Argument σ → List String
  | .plain s | .unknown s => [s]
  | .marker => ["--"]
  | .option _ _ => []

end Argument

end Tron
