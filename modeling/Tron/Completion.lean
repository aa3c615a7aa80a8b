import Tron.Declaration.Basic

/-! # Completion

The list offered to someone who is typing: the words of the language, then the
variables, then each function followed by its parameters. The editor narrows the
list down, so neither the cursor nor what is already typed plays a part.
-/

namespace Tron

/-- What an item of a completion list stands for, by its number in the language
    server protocol. -/
structure ItemKind where
  code : Int
  deriving Repr, DecidableEq

namespace ItemKind

def forFunction : ItemKind := ⟨3⟩

def forVariable : ItemKind := ⟨6⟩

def forKeyword : ItemKind := ⟨14⟩

end ItemKind

structure CompletionItem where
  label : Text
  kind : ItemKind
  detail : Option Text := none
  deriving Repr, DecidableEq

/-- The words of the language, in the order in which they are offered. -/
def keywords : List String :=
  ["break", "else if", "else", "false", "for", "fn", "if", "use", "null", "true", "let",
    "while", "case", "default", "switch", "number", "string"]

namespace CompletionItem

def ofKeyword (word : String) : CompletionItem := ⟨word.toList, .forKeyword, none⟩

def ofVariable (name : Text) (v : VariableDeclaration) : CompletionItem :=
  ⟨name, .forVariable, some v.rawText⟩

def ofParameter (p : Parameter) : CompletionItem := ⟨p.name, .forVariable, none⟩

/-- The items of a function, which shows its declaration, and of its parameters. -/
def listOfFunction (name : Text) (f : FunctionDeclaration) : List CompletionItem :=
  ⟨name, .forFunction, some f.rawText⟩ :: f.parameters.map ofParameter

/-- An item is complete as it is offered: asking for more changes nothing. -/
def resolve (item : CompletionItem) : CompletionItem := item

end CompletionItem

namespace Declarations

def completions (d : Declarations) : List CompletionItem :=
  (d.variableTable.entries.map fun e => .ofVariable e.1 e.2) ++
    d.functionTable.entries.flatMap fun e => CompletionItem.listOfFunction e.1 e.2

end Declarations

/-- The completion list where these declarations are visible, or none are known. -/
def completions (d? : Option Declarations) : List CompletionItem :=
  keywords.map .ofKeyword ++
    match d? with
    | none => []
    | some d => d.completions

end Tron
