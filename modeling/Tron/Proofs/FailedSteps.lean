import Tron.Proofs.LayoutRequest
import Tron.Proofs.OpenDocuments

/-! # Steps that fail

A document that cannot be read, a layout that is asked for in vain and a notice
without settings change nothing of what the session holds. The log has one record
for it, or the answer says so, and what is offered afterwards is what was offered
before.
-/

namespace Tron

/-- The document that a step reads in order to follow it. -/
def Step.followed? : Step → Option String
  | .openDocument uri _ | .change uri _ | .track uri => some uri
  | _ => none

/-- A step that only asks, or gives a text unannounced. -/
def Step.isQuiet : Step → Bool
  | .source _ _ | .complete _ | .resolve _ | .format _ => true
  | _ => false

namespace Reply

/-- What a step leaves in the log. -/
def records (r : Reply) : List LogRecord := r.events.map (·.logRecord)

def recordsAt (level : Level) (r : Reply) : List LogRecord :=
  r.records.filter fun record => record.level = level

/-- A fault is answered or an error is noted. -/
def Failed (r : Reply) : Prop := r.recordsAt .error ≠ [] ∨ ∃ fault, r.answer = .failed fault

theorem recordsAt_eq (level : Level) (r : Reply) :
    r.recordsAt level = (r.events.filter fun e => e.level = level).map (·.logRecord) := by
  rw [recordsAt, records, List.filter_map]
  rfl

theorem recordsAt_error_eq_nil {r : Reply} (calm : ∀ e ∈ r.events, e.level ≠ .error) :
    r.recordsAt .error = [] := by
  rw [recordsAt_eq, List.filter_eq_nil_iff.mpr (by simpa using calm), List.map_nil]

end Reply

namespace Session

/-- The session with the client's text that a step brings, and no other change. -/
def received (s : Session) : Step → Session
  | .source uri text | .openDocument uri text | .change uri text => s.withSource uri text
  | _ => s

/-- A run of steps each of which fails or is quiet. -/
def Idle (s : Session) : List Step → Prop
  | [] => True
  | step :: steps =>
      (step.isQuiet = true ∨ (s.step step).Failed) ∧ (s.step step).session.Idle steps

/-- Two sessions hold the same, the client's texts aside. -/
structure Alike (s t : Session) : Prop where
  documents : t.documents = s.documents
  opened : t.opened = s.opened
  preferences : t.preferences = s.preferences

theorem Alike.trans {s t u : Session} (first : s.Alike t) (second : t.Alike u) : s.Alike u :=
  ⟨second.documents.trans first.documents, second.opened.trans first.opened,
    second.preferences.trans first.preferences⟩

variable {s t : Session} {step : Step} {uri : String} {fault : Unreadable}

theorem alike_received (s : Session) (step : Step) : s.Alike (s.received step) := by
  cases step <;> exact ⟨rfl, rfl, rfl⟩

/-- The client's texts play no part in what is offered. -/
theorem Alike.complete (alike : s.Alike t) (uri : String) :
    (t.step (.complete uri)).answer = (s.step (.complete uri)).answer := by
  cases s
  cases t
  obtain ⟨rfl, rfl, rfl⟩ := alike
  rfl

/-- A step that follows a document says so, and then reads the text it brings. -/
theorem step_of_followed (follows : step.followed? = some uri) :
    s.reading? step = some (uri, (s.received step).workspace.read uri) ∧
    ∃ announced : List Event, (∀ e ∈ announced, e.level = .info) ∧
      s.step step = ⟨((s.received step).track uri).1, .done,
        announced ++ ((s.received step).track uri).2⟩ := by
  cases step with
  | openDocument named text =>
      cases follows
      exact ⟨rfl, [.opened uri], by simp [Event.level], rfl⟩
  | change named text =>
      cases follows
      exact ⟨rfl, [.changed uri], by simp [Event.level], rfl⟩
  | track named =>
      cases follows
      exact ⟨rfl, [], by simp, rfl⟩
  | source | close | configure | complete | resolve | format | shutdown => cases follows

theorem step_of_unreadable (follows : step.followed? = some uri)
    (reads : s.reading? step = some (uri, .error fault)) :
    (s.step step).session = s.received step ∧ (s.step step).answer = .done ∧
      (s.step step).recordsAt .error = [(Event.followingFailed uri fault).logRecord] := by
  obtain ⟨reading, announced, calm, stepped⟩ := step_of_followed follows
  have unread : (s.received step).workspace.read uri = .error fault := by
    rw [reading] at reads
    simpa using reads
  have tracked : (s.received step).track uri = (s.received step, [.followingFailed uri fault]) := by
    rw [track, unread]
  have quiet : announced.filter (fun e => e.level = .error) = [] :=
    List.filter_eq_nil_iff.mpr fun e member => by simp [calm e member]
  rw [stepped, tracked]
  refine ⟨rfl, rfl, ?_⟩
  rw [Reply.recordsAt_eq, List.filter_append, quiet]
  rfl

theorem level_of_mem_track {text : Text} (reads : s.workspace.read uri = .ok text) :
    ∀ e ∈ (s.track uri).2, e.level = .debug := by
  rw [track, reads]
  simp [Event.level]

theorem step_of_readable (follows : step.followed? = some uri) {text : Text}
    (reads : s.reading? step = some (uri, .ok text)) :
    (s.step step).answer = .done ∧ (s.step step).recordsAt .error = [] := by
  obtain ⟨reading, announced, calm, stepped⟩ := step_of_followed follows
  have read : (s.received step).workspace.read uri = .ok text := by
    rw [reading] at reads
    simpa using reads
  rw [stepped]
  refine ⟨rfl, Reply.recordsAt_error_eq_nil fun e member => ?_⟩
  rcases List.mem_append.mp member with early | late
  · simp [calm e early]
  · simp [level_of_mem_track read e late]

/-- What comes of a request for a layout: none is wanted, the document cannot be
    read, its text has no layout, or it has one. -/
theorem format_cases (s : Session) (uri : String) :
    let reply := s.step (.format uri)
    (s.reading? (.format uri) = none ∧ reply.answer = .edits []) ∨
    (∃ fault, s.reading? (.format uri) = some (uri, .error fault) ∧
      reply.answer = .failed (.unreadable fault)) ∨
    (∃ text fault, s.reading? (.format uri) = some (uri, .ok text) ∧
      Layout.format text = .error fault ∧ reply.answer = .failed (.unclosed fault) ∧
      reply.events = [.formattingAborted uri fault]) ∨
    (∃ text new, s.reading? (.format uri) = some (uri, .ok text) ∧
      Layout.format text = .ok new ∧ reply.answer = .edits [.replacing text new]) := by
  intro reply
  by_cases wanted : (s.preferences.formatting && s.isOpen uri) = true
  · obtain ⟨enabled, opened⟩ := (Bool.and_eq_true _ _).mp wanted
    have reading : s.reading? (.format uri) = some (uri, s.workspace.read uri) := by
      simp [reading?, enabled, opened]
    cases holds : s.workspace.read uri with
    | error fault =>
        exact .inr (.inl ⟨fault, by rw [reading, holds],
          format_answer_unreadable enabled opened holds⟩)
    | ok text =>
        have answer := format_answer_of_read enabled opened holds
        cases laid : Layout.format text with
        | error fault =>
            refine .inr (.inr (.inl ⟨text, fault, by rw [reading, holds], laid, ?_, ?_⟩))
            · simpa only [laid] using answer
            · simp [reply, Session.step, format, enabled, opened, holds, Layout.edits, laid,
                Except.map]
        | ok new =>
            refine .inr (.inr (.inr ⟨text, new, by rw [reading, holds], laid, ?_⟩))
            simpa only [laid] using answer
  · have off : s.preferences.formatting = false ∨ s.isOpen uri = false :=
      Bool.and_eq_false_iff.mp (Bool.eq_false_iff.mpr wanted)
    exact .inl ⟨by simp [reading?, wanted], format_answer_off off⟩

theorem level_of_mem_format (s : Session) (uri : String) :
    ∀ e ∈ (s.format uri).2, e.level ≠ .error := by
  unfold format
  split
  · simp [Event.level]
  · split
    · simp [Event.level]
    · split
      · simp
      · split <;> simp [Event.level]

theorem exists_format_of_failed {fault : FormatFault}
    (failed : (s.step step).answer = .failed fault) : ∃ uri, step = .format uri := by
  cases step with
  | format uri => exact ⟨uri, rfl⟩
  | configure settings => cases settings <;> cases failed
  | source | openDocument | change | track | close | complete | resolve | shutdown =>
      cases failed

/-- No other step notes an error. -/
theorem recordsAt_error_of_other (other : step.followed? = none) (given : step ≠ .configure none) :
    (s.step step).recordsAt .error = [] := by
  apply Reply.recordsAt_error_eq_nil
  cases step with
  | openDocument | change | track => cases other
  | configure settings =>
      cases settings with
      | none => exact absurd rfl given
      | some settings => simp [Session.step, configure, Event.level]
  | close uri =>
      simp only [Session.step, close]
      split <;> simp [Event.level]
  | complete uri =>
      simp only [Session.step, complete]
      split <;> simp [Event.level]
  | format uri => exact s.level_of_mem_format uri
  | source | resolve => exact fun _ member => by cases member
  | shutdown => simp [Session.step, shutdown, Event.level]

theorem recordsAt_error_ne_nil_iff : (s.step step).recordsAt .error ≠ [] ↔
    step = .configure none ∨ ∃ uri fault, step.followed? = some uri ∧
      s.reading? step = some (uri, .error fault) := by
  cases follows : step.followed? with
  | none =>
      by_cases given : step = .configure none
      · subst given
        simp [Reply.recordsAt_eq, Session.step, configure, Event.level]
      · simp [recordsAt_error_of_other follows given, given]
  | some uri =>
      have other : step ≠ .configure none := by
        rintro rfl
        cases follows
      obtain ⟨reading, -⟩ := s.step_of_followed follows
      cases read : (s.received step).workspace.read uri with
      | error fault =>
          rw [read] at reading
          obtain ⟨-, -, noted⟩ := step_of_unreadable follows reading
          simp [noted, reading]
      | ok text =>
          rw [read] at reading
          obtain ⟨-, calm⟩ := step_of_readable follows reading
          simp [calm, reading, other]

/-- A step that fails does nothing but bring its text. -/
theorem session_of_failed (failed : (s.step step).Failed) :
    (s.step step).session = s.received step := by
  rcases failed with noted | ⟨fault, answered⟩
  · rcases recordsAt_error_ne_nil_iff.mp noted with rfl | ⟨uri, fault, follows, reads⟩
    · rfl
    · exact (step_of_unreadable follows reads).1
  · obtain ⟨uri, rfl⟩ := exists_format_of_failed answered
    rfl

theorem session_of_quiet (quiet : step.isQuiet = true) :
    (s.step step).session = s.received step := by
  cases step with
  | source | complete | resolve | format => rfl
  | openDocument | change | track | close | configure | shutdown => cases quiet

theorem alike_after_idle {steps : List Step} (idle : s.Idle steps) : s.Alike (s.after steps) := by
  induction steps generalizing s with
  | nil => exact ⟨rfl, rfl, rfl⟩
  | cons step steps ih =>
      obtain ⟨here, later⟩ := idle
      have stepped : (s.step step).session = s.received step :=
        here.elim session_of_quiet session_of_failed
      exact (stepped ▸ s.alike_received step).trans (ih later)

theorem answer_unreadable_iff : (s.step step).answer = .failed (.unreadable fault) ↔
    ∃ uri, step = .format uri ∧ s.reading? step = some (uri, .error fault) := by
  constructor
  · intro failed
    obtain ⟨uri, rfl⟩ := exists_format_of_failed failed
    rcases s.format_cases uri with ⟨-, answer⟩ | ⟨other, reads, answer⟩ |
      ⟨text, other, -, -, answer, -⟩ | ⟨text, new, -, -, answer⟩
    all_goals rw [answer] at failed; cases failed
    exact ⟨uri, rfl, reads⟩
  · rintro ⟨uri, rfl, reads⟩
    rcases s.format_cases uri with ⟨reads', -⟩ | ⟨other, reads', answer⟩ |
      ⟨text, other, reads', -⟩ | ⟨text, new, reads', -⟩
    all_goals rw [reads'] at reads; cases reads
    exact answer

theorem answer_unclosed_iff {unclosed : Unclosed} :
    (s.step step).answer = .failed (.unclosed unclosed) ↔
      ∃ uri text, step = .format uri ∧ s.reading? step = some (uri, .ok text) ∧
        Layout.format text = .error unclosed := by
  constructor
  · intro failed
    obtain ⟨uri, rfl⟩ := exists_format_of_failed failed
    rcases s.format_cases uri with ⟨-, answer⟩ | ⟨other, -, answer⟩ |
      ⟨text, other, reads, laid, answer, -⟩ | ⟨text, new, -, -, answer⟩
    all_goals rw [answer] at failed; cases failed
    exact ⟨uri, text, rfl, reads, laid⟩
  · rintro ⟨uri, text, rfl, reads, laid⟩
    rcases s.format_cases uri with ⟨reads', -⟩ | ⟨other, reads', -⟩ |
      ⟨text', other, reads', laid', answer, -⟩ | ⟨text', new, reads', laid', -⟩
    all_goals rw [reads'] at reads; cases reads
    all_goals rw [laid'] at laid; cases laid
    exact answer

theorem records_of_unclosed {unclosed : Unclosed}
    (failed : (s.step (.format uri)).answer = .failed (.unclosed unclosed)) :
    (s.step (.format uri)).records = [(Event.formattingAborted uri unclosed).logRecord] := by
  rcases s.format_cases uri with ⟨-, answer⟩ | ⟨other, -, answer⟩ |
    ⟨text, other, -, -, answer, events⟩ | ⟨text, new, -, -, answer⟩
  all_goals rw [answer] at failed; cases failed
  rw [Reply.records, events]
  rfl

/-- An error is noted exactly for a notice without settings and for a document that
    cannot be read when it is to be followed, and a fault is answered exactly to a
    request for a layout whose document cannot be read or has none. Whenever this
    happens, all that the session holds is what it held before. A failed reading has
    one error in the log, which names the document and the fault, and until a later
    step succeeds in changing something, every document is offered what it was
    offered before. A layout that does not exist has one warning in the log, with
    the number of open blocks that is also answered. -/
theorem failed_step_keeps (s : Session) (step : Step) :
    let reply := s.step step
    ((∀ uri, step ≠ .format uri) → ∀ fault, reply.answer ≠ .failed fault) ∧
    (reply.recordsAt .error ≠ [] ↔ step = .configure none ∨
      ∃ uri fault, step.followed? = some uri ∧ s.reading? step = some (uri, .error fault)) ∧
    (∀ fault, reply.answer = .failed (.unreadable fault) ↔
      ∃ uri, step = .format uri ∧ s.reading? step = some (uri, .error fault)) ∧
    (∀ fault, reply.answer = .failed (.unclosed fault) ↔
      ∃ uri text, step = .format uri ∧ s.reading? step = some (uri, .ok text) ∧
        Layout.format text = .error fault) ∧
    (reply.Failed → s.Alike reply.session ∧ reply.session = s.received step) ∧
    (∀ uri fault, step.followed? = some uri → s.reading? step = some (uri, .error fault) →
      reply.recordsAt .error =
        [⟨.error, .server, s!"Erro ao rastrear {uri}: " ++ fault.message⟩] ∧
      ∀ more, reply.session.Idle more → ∀ other,
        ((reply.session.after more).step (.complete other)).answer =
          (s.step (.complete other)).answer) ∧
    ∀ uri fault, step = .format uri → reply.answer = .failed (.unclosed fault) →
      reply.records = [⟨.warning, .server, s!"Formatação abortada para {uri}: " ++
        fault.message ++ s!" ({fault.openBlocks} bloco(s) aberto(s))"⟩] := by
  intro reply
  refine ⟨?_, recordsAt_error_ne_nil_iff, fun _ => answer_unreadable_iff,
    fun _ => answer_unclosed_iff, ?_, ?_, ?_⟩
  · intro other fault failed
    obtain ⟨uri, same⟩ := exists_format_of_failed failed
    exact other uri same
  · intro failed
    have stepped : reply.session = s.received step := session_of_failed failed
    exact ⟨stepped ▸ s.alike_received step, stepped⟩
  · intro uri fault follows reads
    obtain ⟨stepped, -, noted⟩ := step_of_unreadable follows reads
    refine ⟨noted, fun more idle other => ?_⟩
    have kept : s.Alike reply.session := stepped ▸ s.alike_received step
    exact (kept.trans (alike_after_idle idle)).complete other
  · rintro uri fault rfl failed
    exact records_of_unclosed failed

/-- An open document that declares a variable and ends inside a block. -/
def unclosed : Session := Session.after {} [.openDocument "a" (.ok "let x:t=1;\n\x7b".toList)]

/-- A change to a text that cannot be read. -/
def unread : Step := .change "a" (.error ⟨"file is locked"⟩)

theorem failed_step_keeps_unclosed :
    ((unclosed.step unread).recordsAt .error).map (·.message) =
      ["Erro ao rastrear a: file is locked"] ∧
    (∀ other, (((unclosed.step unread).session.after [.track "a", .format "a"]).step
      (.complete other)).answer = (unclosed.step (.complete other)).answer) ∧
    unclosed.Alike (unclosed.step (.format "a")).session ∧
    (unclosed.step (.format "a")).records.map (·.level) = [.warning] := by
  have reads : unclosed.reading? unread = some ("a", .error ⟨"file is locked"⟩) := by decide
  have failed : (unclosed.step (.format "a")).answer = .failed (.unclosed ⟨1⟩) := by decide
  obtain ⟨-, -, -, -, -, noted, -⟩ := failed_step_keeps unclosed unread
  obtain ⟨record, offered⟩ := noted "a" ⟨"file is locked"⟩ rfl reads
  obtain ⟨-, -, -, -, kept, -, warned⟩ := failed_step_keeps unclosed (.format "a")
  refine ⟨?_, offered _ ⟨.inr (.inl (by decide)), .inl rfl, trivial⟩, (kept (.inr ⟨_, failed⟩)).1, ?_⟩
  · rw [record]
    decide
  · rw [warned "a" ⟨1⟩ rfl failed]
    rfl

end Session

end Tron
