/-! # Settings

A client sends its settings as a tree of values. The ones meant for this server
are two switches, each in a group of its own, either in the section named for
the server or, if there is no such section, at the top. Whatever is missing or
malformed leaves a switch on.
-/

namespace Tron

/-- A value of a settings tree. Numbers are `mantissa * 10 ^ -exponent`. -/
inductive Setting where
  | null
  | bool (value : Bool)
  | number (mantissa : Int) (exponent : Nat)
  | string (value : String)
  | list (items : List Setting)
  | group (members : List (String × Setting))
  deriving Repr, Inhabited

namespace Setting

/-- The member of a group, if the value is a group and has it. -/
def member? (name : String) : Setting → Option Setting
  | .group members => (members.find? fun m => m.1 = name).map Prod.snd
  | _ => none

def isGroup : Setting → Bool
  | .group _ => true
  | _ => false

def sectionName : String := "tron"

/-- The server's section: the member of that name, or the settings themselves if
    they have none. A value that is not a group is an empty section. -/
def ownSection (s : Setting) : Setting :=
  let own := (s.member? sectionName).getD s
  if own.isGroup then own else .group []

/-- A switch of a section is on unless its group says `false`. -/
def switch (s : Setting) (group name : String) : Bool :=
  match (s.member? group).bind (member? name) with
  | some (.bool value) => value
  | _ => true

end Setting

structure Preferences where
  /-- Whether completion offers the declarations of all documents. -/
  sharedCompletion : Bool := true
  /-- Whether documents are laid out on request. -/
  formatting : Bool := true
  deriving Repr, DecidableEq

/-- The switches that settings ask for, whatever they were before. -/
def Preferences.ofSettings (s : Setting) : Preferences where
  sharedCompletion := s.ownSection.switch "completion" "crossDocument"
  formatting := s.ownSection.switch "formatting" "enabled"

end Tron
