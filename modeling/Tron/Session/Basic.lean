import Tron.Completion
import Tron.Documents
import Tron.Session.Event

/-! # Sessions

A session answers a client step by step. A document is open from the first time
its text could be read until it is closed, and only open documents get
completions and a layout. A failure is noted or answered and changes nothing.
-/

namespace Tron

structure Session where
  documents : Documents := ∅
  /-- The open documents, in the order in which they were opened. -/
  opened : List String := []
  preferences : Preferences := {}
  workspace : Workspace := ∅

instance : Inhabited Session := ⟨{}⟩

/-- What a client asks of a session. -/
inductive Step where
  /-- The client's text of a document becomes another or cannot be read any more,
      unannounced. -/
  | source (uri : String) (text : Except Unreadable Text)
  | openDocument (uri : String) (text : Except Unreadable Text)
  | change (uri : String) (text : Except Unreadable Text)
  | track (uri : String)
  | close (uri : String)
  /-- New settings, or a notice that holds none. -/
  | configure (settings : Option Setting)
  | complete (uri : String)
  | resolve (item : CompletionItem)
  | format (uri : String)
  | shutdown
  deriving Repr

inductive FormatFault where
  | unclosed (fault : Unclosed)
  | unreadable (fault : Unreadable)
  deriving Repr, DecidableEq

def FormatFault.message : FormatFault → String
  | .unclosed fault => fault.message
  | .unreadable fault => fault.message

inductive Answer where
  | done
  | completions (items : List CompletionItem)
  | resolved (item : CompletionItem)
  | edits (edits : List Edit)
  | failed (fault : FormatFault)
  deriving Repr, DecidableEq

structure Reply where
  session : Session
  answer : Answer
  events : List Event

namespace Session

def isOpen (s : Session) (uri : String) : Bool := s.opened.contains uri

/-- The open documents in the order of their URIs. -/
def openUris (s : Session) : List String := s.opened.mergeSort fun u v => decide (u ≤ v)

def withSource (s : Session) (uri : String) (text : Except Unreadable Text) : Session :=
  { s with workspace := s.workspace.set uri text }

/-- Read a document and follow it with the text read. -/
def track (s : Session) (uri : String) : Session × List Event :=
  match s.workspace.read uri with
  | .error fault => (s, [.followingFailed uri fault])
  | .ok text =>
    let found := Declarations.ofText text
    let tally : Tally := ⟨found.variableTable.size, found.functionTable.size⟩
    ({ s with
        documents := s.documents.update uri text
        opened := if s.isOpen uri then s.opened else s.opened ++ [uri] },
      [.scanned tally, .updated uri tally, .followed uri tally])

def close (s : Session) (uri : String) : Session × List Event :=
  ({ s with
      documents := s.documents.forget uri
      opened := s.opened.filter (· ≠ uri) },
    if s.documents.contains uri then [.forgotten uri] else [])

def configure (s : Session) : Option Setting → Session × List Event
  | none => (s, [.configuringFailed])
  | some settings =>
    let preferences := Preferences.ofSettings settings
    ({ s with preferences }, [.configured preferences])

/-- The completion list for a document, empty if it is not open. -/
def complete (s : Session) (uri : String) : List CompletionItem × List Event :=
  if s.isOpen uri then
    (completions (some (s.documents.visible (some uri) s.preferences.sharedCompletion)), [])
  else ([], [.completionUnknown uri])

/-- The edits that lay out a document, none if it is not open or no layout is
    wanted. The text is the client's current one. -/
def format (s : Session) (uri : String) : Except FormatFault (List Edit) × List Event :=
  if !s.preferences.formatting then (.ok [], [.formattingOff uri])
  else if !s.isOpen uri then (.ok [], [.formattingUnknown uri])
  else
    match s.workspace.read uri with
    | .error fault => (.error (.unreadable fault), [])
    | .ok text =>
      match Layout.edits text with
      | .error fault => (.error (.unclosed fault), [.formattingAborted uri fault])
      | .ok edits => (.ok edits, [])

/-- Close everything. The switches and the client's texts stay. -/
def shutdown (s : Session) : Session × List Event :=
  ({ s with documents := ∅, opened := [] }, [.ending, .discarded s.documents.size])

def step (s : Session) : Step → Reply
  | .source uri text => ⟨s.withSource uri text, .done, []⟩
  | .openDocument uri text =>
    let (s', events) := (s.withSource uri text).track uri
    ⟨s', .done, .opened uri :: events⟩
  | .change uri text =>
    let (s', events) := (s.withSource uri text).track uri
    ⟨s', .done, .changed uri :: events⟩
  | .track uri =>
    let (s', events) := s.track uri
    ⟨s', .done, events⟩
  | .close uri =>
    let (s', events) := s.close uri
    ⟨s', .done, .closed uri :: events⟩
  | .configure settings =>
    let (s', events) := s.configure settings
    ⟨s', .done, events⟩
  | .complete uri =>
    let (items, events) := s.complete uri
    ⟨s, .completions items, events⟩
  | .resolve item => ⟨s, .resolved item.resolve, []⟩
  | .format uri =>
    let (edits, events) := s.format uri
    ⟨s, match edits with
      | .ok edits => .edits edits
      | .error fault => .failed fault, events⟩
  | .shutdown =>
    let (s', events) := s.shutdown
    ⟨s', .done, events⟩

/-- The replies to steps taken one after another. -/
def replies (s : Session) : List Step → List Reply
  | [] => []
  | step :: steps =>
    let reply := s.step step
    reply :: reply.session.replies steps

/-- The session after steps taken one after another. -/
def after (s : Session) (steps : List Step) : Session :=
  steps.foldl (fun s step => (s.step step).session) s

end Session

end Tron
