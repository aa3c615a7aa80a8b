import Tron.Proofs.ProjectEffects

/-! # What is told of the toolchain

How a command of the toolchain ended is told behind what the terminal shows already. A
program that fails, or is missing, gets an error line, and the project command goes on;
any other failure to start a program ends the project command without a word. What a
program complained of is always told in full. What else it put out is told only if it
succeeded and complained of nothing.
-/

namespace Tron

/-- What has been written to the two streams between two moments. -/
structure Console.Gains (before after : Console) (said warned : String) : Prop where
  stdout : after.stdout = before.stdout ++ said
  stderr : after.stderr = before.stderr ++ warned

/-- Between two moments these texts were written out in full, one on each stream. -/
def Console.Echoes (before after : Console) (out err : String) : Prop :=
  ∃ said warned, before.Gains after said warned ∧
    out.toList <:+: said.toList ∧ err.toList <:+: warned.toList

namespace Ending

/-- A program that ran without success, or did not run. -/
def Failing : Ending → Prop
  | .finished status _ _ => status ≠ 0
  | .notStarted _ _ => True

/-- A failure to start for which neither the program nor its directory is missing. -/
def otherFault? : Ending → Option StartFault
  | .finished _ _ _ => none
  | .notStarted .fileNotFound _ | .notStarted .notADirectory _ => none
  | .notStarted refusal message => some ⟨refusal, message⟩

end Ending

namespace Console

variable (console : Console)

theorem gains_nothing : console.Gains console "" "" :=
  ⟨String.append_empty.symm, String.append_empty.symm⟩

theorem gains_tell (line : String) : console.Gains (console.tell line) (line ++ "\n") "" :=
  ⟨String.append_assoc, String.append_empty.symm⟩

theorem gains_warn (line : String) : console.Gains (console.warn line) "" (line ++ "\n") :=
  ⟨String.append_empty.symm, String.append_assoc⟩

variable {console} {between after : Console} {said warned said' warned' out err : String}

theorem Gains.trans (first : console.Gains between said warned)
    (second : between.Gains after said' warned') :
    console.Gains after (said ++ said') (warned ++ warned') where
  stdout := by rw [second.stdout, first.stdout, String.append_assoc]
  stderr := by rw [second.stderr, first.stderr, String.append_assoc]

theorem Gains.echoes_iff (gains : console.Gains after said warned) :
    console.Echoes after out err ↔
      out.toList <:+: said.toList ∧ err.toList <:+: warned.toList := by
  constructor
  · intro echoes
    obtain ⟨said', warned', gains', shown, shown'⟩ := echoes
    have same := gains.stdout.symm.trans gains'.stdout
    have same' := gains.stderr.symm.trans gains'.stderr
    rw [String.append_right_inj] at same same'
    exact ⟨same ▸ shown, same' ▸ shown'⟩
  · intro shown
    exact ⟨said, warned, gains, shown⟩

end Console

namespace Command

/-- What the terminal is told of an ending on its first stream. -/
def said : Ending → String
  | .finished status out err => if status = 0 ∧ err = "" then "stdout: " ++ out ++ "\n" else ""
  | .notStarted _ _ => ""

/-- What it is told on its second stream. -/
def warned (c : Command) : Ending → String
  | .finished status _ err =>
      (if status = 0 then "" else s!"error: command {c.text} exited with {status}" ++ "\n") ++
        if err = "" then "" else "stderr: " ++ err ++ "\n"
  | .notStarted .fileNotFound message | .notStarted .notADirectory message =>
      "error: " ++ message ++ "\n"
  | .notStarted _ _ => ""

variable (c : Command) (console : Console) (ending : Ending)

theorem gains_report : console.Gains (c.report console ending).1 (said ending) (c.warned ending) := by
  cases ending with
  | notStarted refusal message =>
      cases refusal with
      | fileNotFound | notADirectory => exact console.gains_warn _
      | permissionDenied | systemFailure | invalidValue => exact console.gains_nothing
  | finished status out err =>
      by_cases success : status = 0 <;> by_cases silent : err = ""
      · simpa [report, said, warned, success, silent] using console.gains_tell ("stdout: " ++ out)
      · simpa [report, said, warned, success, silent] using console.gains_warn ("stderr: " ++ err)
      · simpa [report, said, warned, success, silent] using
          console.gains_warn s!"error: command {c.text} exited with {status}"
      · have failed := console.gains_warn s!"error: command {c.text} exited with {status}"
        simpa [report, said, warned, success, silent] using
          failed.trans (Console.gains_warn _ ("stderr: " ++ err))

theorem report_isOk_iff :
    (∃ status, (c.report console ending).2 = .ok status) ↔ ending.otherFault? = none := by
  cases ending with
  | finished status out err => simp [report, Ending.otherFault?]
  | notStarted refusal message => cases refusal <;> simp [report, Ending.otherFault?]

variable {ending}

theorem report_of_otherFault {fault : StartFault} (other : ending.otherFault? = some fault) :
    c.report console ending = (console, .error fault) := by
  cases ending with
  | finished status out err => cases other
  | notStarted refusal message => cases refusal <;> cases other <;> rfl

theorem statusLine_eq (status : Int) :
    s!"error: command {c.text} exited with {status}" =
      "error: " ++ s!"command {c.text} exited with {status}" := by
  have front : "error: command " = "error: " ++ "command " := rfl
  simp only [front, toString, String.append_assoc]

/-- Of a failure that is told, an error line is told before all else, and nothing on the
    first stream. -/
theorem told_of_failing (failing : ending.Failing) (expected : ending.otherFault? = none) :
    said ending = "" ∧ ∃ rest, c.warned ending = "error: " ++ rest ++ "\n" := by
  cases ending with
  | finished status out err =>
      have failed : ¬ status = 0 := failing
      refine ⟨if_neg fun both => failed both.1, ?_⟩
      by_cases silent : err = ""
      · refine ⟨s!"command {c.text} exited with {status}", ?_⟩
        simp only [warned, failed, silent, if_true, if_false, String.append_empty]
        rw [statusLine_eq]
      · refine ⟨s!"command {c.text} exited with {status}" ++ "\n" ++ ("stderr: " ++ err), ?_⟩
        simp only [warned, failed, silent, if_false]
        rw [statusLine_eq]
        simp only [String.append_assoc]
  | notStarted refusal message =>
      cases refusal with
      | fileNotFound | notADirectory => exact ⟨rfl, message, rfl⟩
      | permissionDenied | systemFailure | invalidValue => cases expected

theorem infix_between (front text back : String) :
    text.toList <:+: (front ++ text ++ back).toList := by
  rw [String.toList_append, String.toList_append]
  exact List.infix_append _ _ _

theorem infix_warned (status : Int) (out err : String) :
    err.toList <:+: (c.warned (.finished status out err)).toList := by
  by_cases silent : err = ""
  · subst silent
    exact List.nil_infix
  · have told := infix_between "stderr: " err "\n"
    simp only [warned, silent, if_false]
    rw [String.toList_append]
    exact told.trans (List.suffix_append _ _).isInfix

theorem infix_said_iff (status : Int) (out err : String) :
    out.toList <:+: (said (.finished status out err)).toList ↔
      out = "" ∨ status = 0 ∧ err = "" := by
  by_cases clean : status = 0 ∧ err = ""
  · have told := infix_between "stdout: " out "\n"
    simpa [said, clean] using told
  · simp [said, clean]

/-- All that a program put out is told exactly if it put nothing out on the first stream,
    or succeeded without a complaint. -/
theorem echoes_report_iff (status : Int) (out err : String) :
    console.Echoes (c.report console (.finished status out err)).1 out err ↔
      out = "" ∨ status = 0 ∧ err = "" := by
  rw [(c.gains_report console _).echoes_iff, infix_said_iff]
  exact and_iff_left (c.infix_warned status out err)

theorem echoes_complaints (status : Int) (out err : String) :
    console.Echoes (c.report console (.finished status out err)).1 "" err :=
  (c.gains_report console _).echoes_iff.mpr ⟨List.nil_infix, c.infix_warned status out err⟩

end Command

namespace Project

variable {verb : Verb} {arguments : List String} {path : Path}

/-- Apart from creating a project, to ask for a verb is to run one command of the
    toolchain. -/
theorem run_toolchain (other : verb ≠ .create) (asks : Asks verb arguments path)
    (working : Place) (ending : Ending) (w : World) :
    ∃ c : Command,
      (run working ending w arguments).1.console = (c.report w.console ending).1 ∧
      (run working ending w arguments).2 =
        ending.otherFault?.elim .finished (.failed <| .action <| .start ·) := by
  have planned : ∃ c, plan path verb = [.call c] := by
    cases verb with
    | create => exact absurd rfl other
    | build | start => exact ⟨_, rfl⟩
  obtain ⟨c, planned⟩ := planned
  refine ⟨c, ?_⟩
  rw [run_of_act working ending w (asks_iff.mpr asks), planned]
  simp only [Plan.perform, Action.perform]
  cases expected : ending.otherFault? with
  | some fault => simp [c.report_of_otherFault w.console expected]
  | none =>
      obtain ⟨status, ok⟩ := (c.report_isOk_iff w.console ending).mpr expected
      simp [ok]

/-- A command ends with a status, and with an error line before all else if it failed,
    exactly if it could be started, or its program or its directory is missing. The
    project command that ran it then comes to its end. For any other failure to start
    nothing is told, and the project command breaks off. -/
theorem failure_told_iff_expected (other : verb ≠ .create) (asks : Asks verb arguments path)
    (working : Place) (w : World) (c : Command) (console : Console) (ending : Ending) :
    let reported := c.report console ending
    let outcome := (run working ending w arguments).2
    ((∃ status, reported.2 = .ok status) ∧
        (ending.Failing → ∃ rest, console.Gains reported.1 "" ("error: " ++ rest ++ "\n")) ↔
      ending.otherFault? = none) ∧
    (outcome = .finished ↔ ending.otherFault? = none) ∧
    ∀ fault, ending.otherFault? = some fault →
      reported = (console, .error fault) ∧ outcome = .failed (.action (.start fault)) := by
  intro reported outcome
  obtain ⟨-, -, ran⟩ := run_toolchain other asks working ending w
  have ends : outcome = _ := ran
  have returns := c.report_isOk_iff console ending
  refine ⟨⟨fun told => returns.mp told.1, ?told⟩, ?finished, ?broken⟩
  case told =>
      intro expected
      refine ⟨returns.mpr expected, fun failing => ?_⟩
      obtain ⟨nothing, rest, line⟩ := c.told_of_failing failing expected
      have gains := c.gains_report console ending
      rw [nothing, line] at gains
      exact ⟨rest, gains⟩
  case finished =>
      rw [ends]
      cases ending.otherFault? with
      | none => simp
      | some fault => simp
  case broken =>
      intro fault unexpected
      rw [ends, unexpected]
      exact ⟨c.report_of_otherFault console unexpected, rfl⟩

theorem failure_told_iff_expected_build :
    let build := fun ending => (run [] ending {} ["build"]).2
    build (.notStarted .fileNotFound "cargo") = .finished ∧
    build (.finished 101 "" "could not compile") = .finished ∧
    build (.notStarted .permissionDenied "denied") =
      .failed (.action (.start ⟨.permissionDenied, "denied"⟩)) ∧
    ∃ rest, Console.Gains {} (Command.report ⟨["cargo", "build"], defaultPath⟩ {}
      (.notStarted .fileNotFound "cargo")).1 "" ("error: " ++ rest ++ "\n") := by
  intro build
  have asks : Asks .build ["build"] defaultPath := ⟨[], rfl, rfl⟩
  have other : Verb.build ≠ .create := nofun
  have told := failure_told_iff_expected other asks [] {} ⟨["cargo", "build"], defaultPath⟩ {}
  obtain ⟨reports, missing, -⟩ := told (.notStarted .fileNotFound "cargo")
  obtain ⟨-, fails, -⟩ := told (.finished 101 "" "could not compile")
  obtain ⟨-, -, denied⟩ := told (.notStarted .permissionDenied "denied")
  obtain ⟨-, line⟩ := reports.mpr rfl
  exact ⟨missing.mpr rfl, fails.mpr rfl, (denied _ rfl).2, line trivial⟩

/-- Not every failure to start is told: one for lack of permission is passed on, and the
    project command does not end in the regular way. -/
theorem permission_denied_passed_on :
    ¬ ((∀ (c : Command) (console : Console) (refusal : StartRefusal) (message : String),
        refusal ≠ .invalidValue →
        ∃ status, (c.report console (.notStarted refusal message)).2 = .ok status) ∧
      ∀ (verb : Verb) (arguments : List String) (path : Path) (working : Place)
        (refusal : StartRefusal) (message : String) (w : World),
        verb ≠ .create → refusal ≠ .invalidValue → Asks verb arguments path →
        (run working (.notStarted refusal message) w arguments).2 = .finished) := by
  intro claimed
  obtain ⟨status, told⟩ :=
    claimed.1 ⟨["cargo", "build"], defaultPath⟩ {} .permissionDenied "denied" nofun
  cases told

/-- What a program that ran complained of is always told in full. The rest of what it put
    out is told too exactly if there is none, or if the program succeeded and complained
    of nothing. This holds of every project command that runs a program. -/
theorem output_told_iff_clean (other : verb ≠ .create) (asks : Asks verb arguments path)
    (working : Place) (w : World) (c : Command) (console : Console) (status : Int)
    (out err : String) :
    let reported := (c.report console (.finished status out err)).1
    let after := (run working (.finished status out err) w arguments).1.console
    (console.Echoes reported "" err ∧ w.console.Echoes after "" err) ∧
    (console.Echoes reported out err ↔ out = "" ∨ status = 0 ∧ err = "") ∧
    (w.console.Echoes after out err ↔ out = "" ∨ status = 0 ∧ err = "") := by
  intro reported after
  obtain ⟨c', told, -⟩ := run_toolchain other asks working (.finished status out err) w
  have same : after = _ := told
  rw [same]
  exact ⟨⟨c.echoes_complaints .., c'.echoes_complaints ..⟩, c.echoes_report_iff ..,
    c'.echoes_report_iff ..⟩

theorem output_told_iff_clean_start :
    let start := fun err =>
      (run [] (.finished 0 "Hello, World!\n" err) {} ["start"]).1.console
    Console.Echoes {} (start "") "Hello, World!\n" "" ∧
    Console.Echoes {} (start "Finished\n") "" "Finished\n" ∧
    ¬ Console.Echoes {} (start "Finished\n") "Hello, World!\n" "Finished\n" := by
  intro start
  have asks : Asks .start ["start"] defaultPath := ⟨[], rfl, rfl⟩
  have other : Verb.start ≠ .create := nofun
  have told := output_told_iff_clean other asks [] {} ⟨["cargo", "run"], defaultPath⟩ {} 0
    "Hello, World!\n"
  obtain ⟨-, -, quiet⟩ := told ""
  obtain ⟨⟨-, complaints⟩, -, loud⟩ := told "Finished\n"
  exact ⟨quiet.mpr (.inr ⟨rfl, rfl⟩), complaints, mt loud.mp (by simp)⟩

/-- Not all that a program puts out is told: what it puts out beside a complaint is lost. -/
theorem output_beside_complaint_lost :
    ¬ ∀ (c : Command) (console : Console) (status : Int) (out err : String),
      console.Echoes (c.report console (.finished status out err)).1 out err := by
  intro claimed
  have echoes := claimed ⟨["cargo", "run"], defaultPath⟩ {} 0 "Hello, World!\n" "Finished\n"
  rw [Command.echoes_report_iff] at echoes
  simp at echoes

end Project

end Tron
