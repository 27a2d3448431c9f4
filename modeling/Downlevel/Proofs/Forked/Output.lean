import Downlevel.Proofs.Forked.CleanUp
import Downlevel.Proofs.Text.Lines
/-!
# What a child says

A child that ends leaves an exit code and two texts. All lines of both are recorded before anything
is made of the exit code, and both texts are in the result, or in the failure for an exit code that is
not zero. A child that cannot be started says nothing, and the refusal is the cause of the failure.
-/
namespace Downlevel

/-! ## Messages one after the other -/

namespace World

/-- The world after messages of one level were recorded in order. -/
def recordedAll (w : World) (logger : String) (level : Level) (messages : List String) : World :=
  messages.foldl (fun w message => w.recorded logger level message) w

variable {w : World} {logger : String} {level : Level} {messages : List String}

/-- Messages do not change the logging. -/
theorem log_recordedAll : (w.recordedAll logger level messages).log = w.log := by
  induction messages generalizing w with
  | nil => rfl
  | cons message messages ih =>
    rw [recordedAll, List.foldl_cons]
    exact ih.trans recorded_log

/-- Each message that the log records is one entry of the journal, in order. -/
theorem journal_recordedAll (h : Log.inFamily logger = true) :
    (w.recordedAll logger level messages).journal = w.journal
      ++ if w.log.records level then messages.map fun message => (level.name, message) else [] := by
  induction messages generalizing w with
  | nil => simp [recordedAll]
  | cons message messages ih =>
    have hfirst := ih (w := w.recorded logger level message)
    rw [recorded_log] at hfirst
    rw [recordedAll, List.foldl_cons]
    refine hfirst.trans ?_
    cases hrecords : w.log.records level with
    | true =>
      rw [journal_recorded h hrecords, if_pos rfl, if_pos rfl, List.map_cons, List.append_assoc]
      rfl
    | false =>
      have hsilent : w.recorded logger level message = w := by
        rw [recorded, recordedPoints, hrecords, if_neg Bool.false_ne_true]
      rw [hsilent, if_neg Bool.false_ne_true, if_neg Bool.false_ne_true]

end World

/-- A child that follows a script ends with what the script says, if it can be started. -/
theorem Process.runIn_run_of_script {w : World} {script : ProcessScript} {rest : List ProcessScript}
    {outcome : Outcome} {command : List String} {directory : Option Path}
    (hstart : startFault? w command directory = none) (hscript : w.scripts = script :: rest)
    (houtcome : outcomeOf script = .ok outcome) :
    (run command directory).runIn w
      = (.ok outcome, after script { noted command directory w with scripts := rest }) := by
  rw [runIn_run, hstart, hscript]
  dsimp only
  rw [houtcome]

namespace Forked

theorem inFamily_logger : Log.inFamily logger = true := by cbv

/-- The lines of a text are recorded one after the other. -/
theorem runIn_logLines (level : Level) (text : String) (w : World) :
    (logLines level text).runIn w = (.ok ⟨⟩, w.recordedAll logger level (Text.lines text)) := by
  unfold logLines
  induction Text.lines text generalizing w with
  | nil => rfl
  | cons line lines ih =>
    show (logAs logger level line >>= fun _ => lines.forM (logAs logger level)).runIn w = _
    rw [Action.runIn_bind_ok (Action.runIn_logAs logger level line w), ih]
    rfl

/-! ## The end of a child -/

/-- The world after both texts of a child were told. -/
def heard (outcome : Process.Outcome) (x : World) : World :=
  (x.recordedAll logger .info (Text.lines outcome.stdout)).recordedAll logger .warning
    (Text.lines outcome.stderr)

/-- The lines of both outputs are told, those of each level that is recorded. -/
theorem journal_heard (outcome : Process.Outcome) (x : World) :
    (heard outcome x).journal = x.journal
      ++ (if x.log.records .info then
          (Text.lines outcome.stdout).map fun line => (Level.info.name, line) else [])
      ++ (if x.log.records .warning then
          (Text.lines outcome.stderr).map fun line => (Level.warning.name, line) else []) := by
  rw [heard, World.journal_recordedAll inFamily_logger, World.journal_recordedAll inFamily_logger,
    World.log_recordedAll]

/-- The exit code alone decides what is made of a child, and that is after its lines were told. -/
theorem runIn_conclude (q : Plan) (start : Float) (outcome : Process.Outcome) (x : World) :
    (conclude q start outcome).runIn x
      = (if outcome.returnCode ≠ 0 then
          .error (.ofRun (.ofProcess
            ("Retrolambda failed with exit code " ++ toString outcome.returnCode)
            ⟨q.command, some outcome.returnCode, outcome.stdout, outcome.stderr⟩))
        else .ok {
          backend := some name
          command := some q.command
          returnCode := some outcome.returnCode
          stdout := outcome.stdout
          stderr := outcome.stderr
          duration := x.clock - start }, heard outcome x) := by
  unfold conclude
  rw [Action.runIn_bind_ok (Action.runIn_view _ x), Action.runIn_bind_ok (runIn_logLines _ _ x),
    Action.runIn_bind_ok (runIn_logLines _ _ _)]
  split <;> rfl

/-- What a run reports of a child that ended: how long it took, what it left, and how the run ends
then. -/
structure Reports (q : Plan) (duration : Float) (outcome : Process.Outcome) (x : World)
    (ending : Except Failure Result × World) : Prop where
  /-- One message for each line of the output, and then one warning for each line of the errors. -/
  told : ∃ out err : List (List Char),
    Text.CutInto outcome.stdout.toList out ∧ Text.CutInto outcome.stderr.toList err ∧
    ending.2 = (x.recordedAll logger .info (out.map String.ofList)).recordedAll logger .warning
      (err.map String.ofList) ∧
    ending.2.journal = x.journal
      ++ (if x.log.records .info then out.map fun line => ("INFO", String.ofList line) else [])
      ++ (if x.log.records .warning then
          err.map fun line => ("WARNING", String.ofList line) else [])
  success : outcome.returnCode = 0 → ending.1 = .ok {
    success := true
    skipped := false
    backend := some "forked"
    command := some q.command
    returnCode := some 0
    stdout := outcome.stdout
    stderr := outcome.stderr
    duration }
  failure : outcome.returnCode ≠ 0 → ending.1 = .error ⟨.run {
    kind := .forkedProcess
    message := "Retrolambda failed with exit code " ++ toString outcome.returnCode
    details := [("return_code", .int outcome.returnCode)]
    report := ⟨q.command, some outcome.returnCode, outcome.stdout, outcome.stderr⟩ }, []⟩

/-- The end of a child is reported in full. -/
theorem reports_conclude (q : Plan) (start : Float) (outcome : Process.Outcome) (x : World) :
    Reports q (x.clock - start) outcome x ((conclude q start outcome).runIn x) := by
  rw [runIn_conclude]
  refine ⟨⟨Text.splitLines outcome.stdout.toList, Text.splitLines outcome.stderr.toList,
    Text.cutInto_iff.mpr rfl, Text.cutInto_iff.mpr rfl, rfl, ?_⟩, ?_, ?_⟩
  · rw [journal_heard, Text.lines, Text.lines, List.map_map, List.map_map]
    rfl
  · intro hzero
    dsimp only
    rw [if_neg (not_not_intro hzero), hzero]
    rfl
  · intro hcode
    exact if_pos hcode

/-- **Nothing that a child says is lost.** Whatever its exit code is, a child that ends is reported with
all lines of both its texts. If the system refuses to start it, the failure has the command, no exit
code and no text, the refusal is its direct cause, and nothing is recorded any more. -/
theorem execute_reports (launch : Launcher) (q : Plan) (w : World) :
    (∀ outcome x, (launch q.command).runIn (q.told w) = (.ok outcome, x) →
      Reports q (x.clock - w.clock) outcome x ((execute launch q).runIn w)) ∧
    ∀ e x, (launch q.command).runIn (q.told w) = (.error e, x) → e.fault.isOs = true →
      (execute launch q).runIn w = (.error ⟨.run {
        kind := .forkedProcess
        message := "Failed to start " ++ q.executable ++ ": " ++ e.fault.text
        details := []
        report := ⟨q.command, none, "", ""⟩ }, e.fault :: e.causes⟩, x) := by
  have hclock : (q.told w).clock = w.clock := by
    rw [(q.onlyRecorded_told w).rest]
  rw [runIn_execute, hclock]
  constructor
  · intro outcome x hended
    rw [hended]
    exact reports_conclude q w.clock outcome x
  · intro e x hrefused hos
    rw [hrefused]
    dsimp only
    rw [if_pos hos]
    rfl

/-- A child that is killed after it wrote to both its streams, lines that end at characters of their
own. -/
def killedChild : ProcessScript where
  returnCode := -9
  stdout := .text "a\u0085b"
  stderr := .text "c\u2028"

/-- A machine on which the next child is killed. -/
def killingMachine : World :=
  { bareMachine with scripts := [killedChild] }

/-- A planned process without arguments. -/
def barePlan : Plan :=
  ⟨"java", [], ⟨.root, ["tmp", "classpath"]⟩, ⟨.root, ["retrolambda.jar"]⟩⟩

/-- What a killed child wrote is in the journal and in the failure. -/
theorem execute_reports_killed :
    ((execute (fun command => Process.run command none) barePlan).runIn killingMachine).1
        = .error ⟨.run {
          kind := .forkedProcess
          message := "Retrolambda failed with exit code -9"
          details := [("return_code", .int (-9))]
          report := ⟨["java"], some (-9), "a\u0085b", "c\u2028"⟩ }, []⟩ ∧
      ((execute (fun command => Process.run command none) barePlan).runIn killingMachine).2.journal
        = [("DEBUG", "Executing: java"), ("INFO", "a"), ("INFO", "b"), ("WARNING", "c")] := by
  have htold := barePlan.onlyRecorded_told killingMachine
  have hscripts : (barePlan.told killingMachine).scripts = [killedChild] := by
    rw [htold.rest]
    rfl
  have hstart : Process.startFault? (barePlan.told killingMachine) barePlan.command none = none := by
    rw [Process.startFault?, htold.machine, if_neg (by decide)]
    rfl
  have hended := Process.runIn_run_of_script hstart hscripts
    (show Process.outcomeOf killedChild = .ok ⟨-9, "a\u0085b", "c\u2028"⟩ from rfl)
  obtain ⟨⟨out, err, hout, herr, -, hjournal⟩, -, hfailure⟩ :=
    (execute_reports (fun command => Process.run command none) barePlan killingMachine).1 _ _ hended
  -- The lines are cut at every line end that Unicode knows.
  have hout' : [['a'], ['b']] = out := Text.cutInto_iff.mp hout
  have herr' : [['c']] = err := Text.cutInto_iff.mp herr
  refine ⟨hfailure (by decide), ?_⟩
  have hjournal' : (Process.after killedChild { Process.noted barePlan.command none
      (barePlan.told killingMachine) with scripts := [] }).journal = [("DEBUG", "Executing: java")] :=
    World.journal_recorded (w := killingMachine) inFamily_logger rfl
  have hlog : (Process.after killedChild { Process.noted barePlan.command none
      (barePlan.told killingMachine) with scripts := [] }).log = bareMachine.log := htold.log
  rw [hjournal, hjournal', hlog, ← hout', ← herr']
  rfl

end Forked

end Downlevel
