import Downlevel.Proofs.CommandLine.Calls
import Downlevel.Proofs.CommandLine.Options
import Downlevel.Proofs.CommandLine.Reading
import Downlevel.Proofs.Runner.Classpath
import Downlevel.Proofs.Settings.SetUp
/-!
# The command line and the runner

A call that processes the classes of a goal is a run of a new runner, with the layout and the
parameters that its options give. Processes, calls and files are those of the run, and the exit code
and what is printed tell how the run ended. How the words are read and how things are shown is left to
the toolkit of the call.
-/
namespace Downlevel.CommandLine

variable {t : Toolkit} {words : List String} {w ready : World} {goal : Goal} {top line : Line}
  {s : Settings} {project : Project} {parameters : Parameters}

/-! ## Accepted command lines -/

/-- A command line that processes the classes of a goal is accepted: the options of the program and the
command are read, the settings load, the log is set up, and the options of the command are read. -/
structure Accepted (t : Toolkit) (words : List String) (w : World) (goal : Goal) (top line : Line)
    (s : Settings) (ready : World) : Prop where
  read : ∃ rest, t.program w words = .ok (top, .process goal, rest) ∧
    t.command ready (.process goal) rest = .ok line
  prepared : ∃ loaded, (settings top).runIn w = (.ok s, loaded) ∧
    (Logging.setUp (loggingOf top s)).runIn loaded = (.ok ⟨⟩, ready)

/-- Before the command is carried out nothing happens but that it is made ready. -/
theorem Accepted.onlySetUp (h : Accepted t words w goal top line s ready) : w.OnlySetUp ready := by
  obtain ⟨loaded, hload, hlog⟩ := h.prepared
  have hsettings : (settings top).Within World.OnlySetUp := by
    unfold settings
    split
    · exact (Settings.within_ofFile _).mono World.OnlyRecorded.onlySetUp
    · exact Settings.within_current
  exact IsTrans.trans _ _ _ (hsettings.of_runIn hload) ((Logging.within_setUp _).of_runIn hlog)

/-- An accepted call is the processing of the classes. -/
theorem Accepted.stepIn_call (h : Accepted t words w goal top line s ready) :
    (call t words).stepIn w = (process t goal s line).stepIn ready := by
  obtain ⟨rest, hprogram, hcommand⟩ := h.read
  obtain ⟨loaded, hload, hlog⟩ := h.prepared
  unfold call
  refine (Call.stepIn_bind_ok (Call.stepIn_reading_ok hprogram) _).trans ?_
  refine (Call.stepIn_bind_ok (Call.stepIn_ofAction_ok hload) _).trans ?_
  refine (Call.stepIn_bind_ok (Call.stepIn_ofAction_ok hlog) _).trans ?_
  exact Call.stepIn_bind_ok (Call.stepIn_reading_ok hcommand) _

/-! ## Calls are runs -/

/-- How a call ends with the outcome of its run. -/
def ending (t : Toolkit) : Except Failure Result → Outcome
  | .ok result => t.closing 0 (t.renderer.result result)
  | .error e =>
    Outcome.ofEnding t (if e.fault.isRun then .reported "Retrolambda Failed" e else .broken e)

/-- A fault of the run ends with the panel of its text and its causes, and code one. -/
theorem ending_of_isRun {e : Failure} (h : e.fault.isRun = true) :
    ending t (.error e) = t.closing 1 (t.renderer.message .failure "Retrolambda Failed"
      ("\n".intercalate (e.fault.text :: e.causes.map fun cause =>
        "Caused by: " ++ cause.name ++ ": " ++ cause.text))) := by
  rw [ending, if_pos h]
  rfl

/-- A failure ends a call with the code one, unless it is an order to stop. -/
theorem exitCode_ending_error (ht : t.Regular) {e : Failure} (h : e.fault.isExit = false) :
    (ending t (.error e)).exitCode = 1 := by
  rw [ending]
  split
  · by_cases hshows : t.Shows (t.renderer.message .failure "Retrolambda Failed" e.chainText)
    · exact Toolkit.exitCode_closing_of_shows hshows 1
    · exact ht.exitCode_closing hshows 1
  · exact ht.failed e h

/-- A result ends a call with the code zero, if it can be shown. -/
theorem exitCode_ending_ok (ht : t.Regular) (result : Result) :
    ((ending t (.ok result)).exitCode = 0 ↔ t.Shows (t.renderer.result result)) ∧
      ((ending t (.ok result)).exitCode = 1 ↔ ¬ t.Shows (t.renderer.result result)) := by
  rw [ending]
  by_cases hshows : t.Shows (t.renderer.result result)
  · rw [Toolkit.exitCode_closing_of_shows hshows]
    simp [hshows]
  · rw [ht.exitCode_closing hshows]
    simp [hshows]

/-- The repository that settings ask for is a directory of artifacts or a build tool. -/
theorem repositoryOf_ne_other (s : Settings) (project : Project)
    (copy : Coordinates → Path → Action Unit) : Runner.repositoryOf s project ≠ .other copy := by
  unfold Runner.repositoryOf
  split
  · exact Repository.noConfusion
  · exact Repository.noConfusion

/-- The runner of a call has a project and settings; all else it makes by itself. -/
def newRunner (project : Project) (s : Settings) : Runner where
  project
  settings := s

/-- A step of the runner is taken by a fresh runner for the project. -/
theorem runIn_withRunner {α : Type} (project : Project) (s : Settings) (step : Runner.Step α)
    (w : World) :
    (withRunner project s step).runIn w = ((step.runOn (newRunner project s) w).1.1,
      (step.runOn (newRunner project s) w).2) := rfl

/-- The two commands end as the run that they call does. -/
theorem runIn_process (t : Toolkit) (goal : Goal) (s : Settings) (line : Line) (w : World) :
    (process t goal s line).runIn t w
      = (ending t ((Runner.execute (parametersOf line) goal).runOn
            (newRunner (projectOf w.cwd goal line) s) w).1.1,
          ((Runner.execute (parametersOf line) goal).runOn
            (newRunner (projectOf w.cwd goal line) s) w).2) := by
  have hstep := runIn_withRunner (projectOf w.cwd goal line) s
    (Runner.execute (parametersOf line) goal) w
  revert hstep
  rcases (Runner.execute (parametersOf line) goal).runOn (newRunner (projectOf w.cwd goal line) s) w
    with ⟨⟨e | result, r⟩, w'⟩
  · intro hstep
    refine Call.runIn_of_error ((Call.stepIn_bind_ok (Call.stepIn_get w) _).trans ?_)
    rw [Call.stepIn_bind, Call.reporting, Call.stepIn_ofAction_error hstep]
  · intro hstep
    refine Call.runIn_of_ok ((Call.stepIn_bind_ok (Call.stepIn_get w) _).trans ?_)
    exact Call.stepIn_bind_ok (Call.stepIn_ofAction_ok hstep) _

/-- An accepted call is a run of a new runner, and the outcome of the run is shown. -/
theorem Accepted.run_eq (h : Accepted t words w goal top line s ready) :
    runWith t words w
      = (ending t ((Runner.execute (parametersOf line) goal).runOn
            (newRunner (projectOf w.cwd goal line) s) ready).1.1,
          ((Runner.execute (parametersOf line) goal).runOn
            (newRunner (projectOf w.cwd goal line) s) ready).2) := by
  have hcwd : ready.cwd = w.cwd := by
    rw [h.onlySetUp]
  rw [← hcwd, ← runIn_process]
  have hcall : call t words w = process t goal s line ready := h.stepIn_call
  unfold runWith Call.runIn
  rw [hcall]

/-! ## An order to stop -/

/-- An order to stop that the entry point gives ends the run, and how the call ends is left to the
toolkit. -/
theorem Accepted.run_of_exit {config : BuildConfig} {x : World} {entry : Embedded.Entry}
    {name text : String} {causes : List Fault} (h : Accepted t words w goal top line s ready)
    (hskip : line.has .skip = false)
    (hvalid : (Validation.validate (parametersOf line) (projectOf w.cwd goal line)
      ((newRunner (projectOf w.cwd goal line) s).hostIn ready) goal).runIn ready = (.ok config, x))
    (hfork : config.fork = false)
    (hentry : (Embedded.EntryPoint.named s.runner.entryPoint).entry
      (Runner.chosen Embedded.name goal x) = .ok entry)
    (hraised : entry.raised = some ⟨.stop name text, causes⟩) :
    ((Runner.execute (parametersOf line) goal).runOn
        (newRunner (projectOf w.cwd goal line) s) ready).1.1
          = .error ⟨.stop name text, causes⟩ ∧
      (runWith t words w).1 = t.failed ⟨.stop name text, causes⟩ := by
  obtain ⟨duration, hrun⟩ := Embedded.exists_fst_run hentry config
  rw [hraised] at hrun
  have houtcome := (Runner.runOn_execute_of_embedded hskip hvalid hfork).1.trans hrun
  refine ⟨houtcome, ?_⟩
  rw [h.run_eq, houtcome]
  rfl

/-! ## The refinement -/

/-- **The command line refines the runner.** An accepted command line that processes the classes of a
goal makes one run, of a new runner with the layout and the parameters that its options give, in the
world in which the settings are loaded and the log is set up; until then nothing is started or
called. The call leaves the world of that run: the same processes, calls and files. The values given
for the classpath reach the entry point or the Java process, whichever there is. A result is shown
and the exit code is zero. A fault of a run is shown in one panel, which is given its text and then a
line for each fault that led to it, and the exit code is one. Unless the run ends in an order to stop,
the exit code is zero if and only if it returns and its result can be shown, and one otherwise. -/
theorem run_refines_execute (h : Accepted t words w goal top line s ready)
    (hlayout : Layout w.cwd goal line project) (hoptions : Options line parameters) :
    ∃ r outcome r' w' launch,
      w.OnlySetUp ready ∧
      (Runner.create project (some s)).runIn ready = (.ok r, ready) ∧
      (Runner.execute parameters goal).runOn r ready = ((outcome, r'), w') ∧
      (runWith t words w).2 = w' ∧
      (parameters.skip = false →
        Runner.Course parameters goal r ready launch outcome w') ∧
      Runner.Delivered (line.values .classpath) (Runner.repositoryOf s project) w launch w' ∧
      (∀ result, outcome = .ok result →
        (runWith t words w).1 = t.closing 0 (t.renderer.result result)) ∧
      (∀ e, outcome = .error e → e.fault.isRun = true →
        (runWith t words w).1 = t.closing 1 (t.renderer.message .failure "Retrolambda Failed"
          ("\n".intercalate (e.fault.text :: e.causes.map fun cause =>
            "Caused by: " ++ cause.name ++ ": " ++ cause.text)))) ∧
      (t.Regular → (∀ e, outcome = .error e → e.fault.isExit = false) →
        ((runWith t words w).1.exitCode = 0 ↔
          ∃ result, outcome = .ok result ∧ t.Shows (t.renderer.result result)) ∧
        ((runWith t words w).1.exitCode = 1 ↔
          ∀ result, outcome = .ok result → ¬ t.Shows (t.renderer.result result))) := by
  obtain rfl := layout_iff.mp hlayout
  obtain rfl := options_iff.mp hoptions
  have hsetUp := h.onlySetUp
  have hcopy : ∀ copy, (newRunner (projectOf w.cwd goal line) s).repositoryIn = .other copy →
      ∀ c destination, (copy c destination).Within World.NoCall :=
    fun copy hother => absurd hother (repositoryOf_ne_other s _ copy)
  -- The runner of the call is a fresh one, so that what it hands over are the words of the line.
  obtain ⟨launch, hcourse, hdelivered⟩ := Runner.exists_delivered (parametersOf line) goal
    (newRunner (projectOf w.cwd goal line) s) ready hcopy
  rw [h.run_eq]
  rcases hrun : (Runner.execute (parametersOf line) goal).runOn
    (newRunner (projectOf w.cwd goal line) s) ready with ⟨⟨outcome, r'⟩, w'⟩
  rw [hrun] at hcourse hdelivered
  refine ⟨_, outcome, r', w', launch, hsetUp, rfl, hrun, rfl, hcourse, ?_, ?_, ?_, ?_⟩
  · rw [← hlayout.classpath]
    exact hdelivered.after_idle hsetUp.idle
  · rintro result rfl
    rfl
  · rintro e rfl hfault
    exact ending_of_isRun hfault
  · intro ht hstop
    cases outcome with
    | ok result =>
      obtain ⟨hzero, hone⟩ := exitCode_ending_ok ht result
      refine ⟨hzero.trans ?_, hone.trans ?_⟩
      · simp
      · simp
    | error e =>
      have hcode := exitCode_ending_error ht (hstop e rfl)
      exact ⟨by simp [hcode], by simp [hcode]⟩

/-! ## A machine with the tool -/

/-- The files of a machine with a Java runtime that is new enough. -/
def toolTree : FileTree :=
  { nodes := [(["jdk8"], .directory),
    (["jdk8", "release"], .file 1 false (Text.utf8 "JAVA_VERSION=\"1.8.0_292\"\n"))] }

/-- A machine with these files, and the tool as a module. -/
def toolMachine (raised : Option Failure) : World where
  tree := toolTree
  cwd := []
  environment := [("HOME", "/home/user"), ("JAVA_HOME", "/jdk8")]
  modules := [("retrolambda", { attributes := [("run", .ok (.function 0 raised))] })]

/-- The options that are written for a run of it. -/
def toolOptions : List Written :=
  [⟨"--classpath", .classpath, some "a.jar"⟩, ⟨"-cp", .classpath, some "b.jar"⟩]

/-- The command line of the run. -/
def toolWords : List String :=
  "process-main" :: toolOptions.flatMap Written.words

/-- What is read of it. -/
def toolLine : Line :=
  ⟨[(.classpath, some "a.jar"), (.classpath, some "b.jar")], []⟩

/-- The settings of the machine: all of them have their defaults. -/
def toolSettings : Settings where
  runner := ⟨"retrolambda:run", .directory, Path.ofString "/home/user/.m2/repository", "mvn", none⟩
  toolchain := ⟨some (Path.ofString "/home/user/.m2/toolchains.xml"), none⟩
  logging := ⟨.info, "[%(name)s] %(message)s", none, true⟩

/-- The variables of the machine. -/
def toolVariables : Variables :=
  ⟨[("HOME", "/home/user"), ("JAVA_HOME", "/jdk8")], []⟩

/-- The machine once the settings are loaded. -/
def loadedMachine (raised : Option Failure) : World :=
  { toolMachine raised with settings := some toolSettings }

/-- The machine once the log is set up. -/
def readyMachine (raised : Option Failure) : World :=
  { loadedMachine raised with log := ⟨.info, [.display]⟩ }

theorem runIn_current_tool (raised : Option Failure) :
    Settings.current.runIn (toolMachine raised) = (.ok toolSettings, loadedMachine raised) := by
  have hread : Variables.read.runIn (toolMachine raised) = (.ok toolVariables, toolMachine raised) :=
    Variables.read_of_vacant rfl (show toolTree.refusal? [] ".env" = none by decide)
      (show toolTree.find? [".env"] = none by decide)
  -- The installation has no file of its own, and the environment sets nothing.
  have hholds : (toolMachine raised).tree.holds (toolMachine raised).cwd
      (toolMachine raised).machine.installedFile = .ok false := by
    have hnone : toolTree.locate [] true ⟨.root, ["app", "config", "default.yaml"]⟩
        = .error .noEntry :=
      FileTree.locate_of_missing [] (by decide) (by decide) (by decide) nofun (by decide) (by decide)
    show toolTree.holds [] ⟨.root, ["app", "config", "default.yaml"]⟩ = .ok false
    rw [FileTree.holds, FileTree.look, FileTree.status_of_locate_error hnone]
    rfl
  have hunset : SectionVariables.ofVariables toolVariables = .ok [none, none, none] :=
    SectionVariables.ofVariables_of_unset (by decide +kernel) (by decide +kernel)
  have hsections : SectionVariables.read.runIn (toolMachine raised)
      = (.ok [none, none, none], toolMachine raised) := by
    rw [SectionVariables.runIn_read hread]
    exact congrArg (·, toolMachine raised) hunset
  have hrunner : RunnerSettings.inSettings.read {} (RunnerSettings.inSettings.source [] toolVariables)
      = .value toolSettings.runner := Reading.toOption_eq_some.mp (by decide +kernel)
  have htoolchain : ToolchainSettings.inSettings.read {}
      (ToolchainSettings.inSettings.source [] toolVariables)
        = .value toolSettings.toolchain := Reading.toOption_eq_some.mp (by decide +kernel)
  have hlogging : LoggingSettings.inSettings.read {}
      (LoggingSettings.inSettings.source [] toolVariables)
        = .value toolSettings.logging := Reading.toOption_eq_some.mp (by decide +kernel)
  have hvariables : Settings.ofVariables.runIn (toolMachine raised)
      = (.ok toolSettings, toolMachine raised) :=
    Settings.runIn_ofVariables hsections (SettingsSection.load_of_read rfl hread hrunner)
      (SettingsSection.load_of_read rfl hread htoolchain)
      (SettingsSection.load_of_read rfl hread hlogging)
  have hinstallation : Settings.ofInstallation.runIn (toolMachine raised)
      = (.ok toolSettings, toolMachine raised) := by
    unfold Settings.ofInstallation
    rw [Action.runIn_bind_ok (Action.runIn_view _ _), Action.runIn_bind, Files.runIn_holds, hholds]
    exact hvariables
  unfold Settings.current
  rw [Action.runIn_bind_ok (Action.runIn_get _)]
  exact Action.runIn_bind_ok hinstallation _

/-- The words of the run are read as they are written. -/
theorem program_tool (w : World) : Reader.program w toolWords
    = .ok (⟨[], toolWords⟩, .process .main, toolOptions.flatMap Written.words) := by
  have hnone : ∀ x ∈ ([] : List Written), x.Fits Scope.program.switches :=
    fun _ hx => nomatch hx
  have hparse : Line.parse .program toolWords = .ok ⟨[], toolWords⟩ :=
    Line.parse_program_written hnone (by decide +kernel) _
  have hread : Reader.read w .program toolWords = .ok ⟨[], toolWords⟩ :=
    Reader.read_eq_ok_iff.mpr ⟨hparse, nofun, nofun, Or.inl rfl⟩
  unfold Reader.program
  rw [hread]
  rfl

theorem command_tool (w : World) : Reader.read w (.command (.process .main))
    (toolOptions.flatMap Written.words) = .ok toolLine := by
  have hfits : ∀ x ∈ toolOptions, x.Fits (Scope.command (.process .main)).switches := by
    simp only [toolOptions, List.forall_mem_cons]
    refine ⟨⟨?_, ?_, rfl⟩, ⟨?_, ?_, rfl⟩, fun _ hx => nomatch hx⟩ <;> decide +kernel
  have hparse : Line.parse (.command (.process .main)) (toolOptions.flatMap Written.words)
      = .ok toolLine := Line.parse_written hfits
  have hoptions : ∀ o ∈ toolLine.options, o = .classpath := by decide
  refine Reader.read_eq_ok_iff.mpr ⟨hparse, fun o ho => ?_, fun o ho operand path hoperand _ => ?_,
    Or.inr rfl⟩
  · rw [hoptions o ho]
    decide
  · rw [hoptions o ho] at hoperand
    cases hoperand
    rfl

/-- The command line of the example is accepted, whatever its run comes to. -/
theorem accepted_tool (raised : Option Failure) :
    Accepted .standard toolWords (toolMachine raised) .main ⟨[], toolWords⟩ toolLine toolSettings
      (readyMachine raised) where
  read := ⟨_, program_tool _, command_tool _⟩
  prepared := ⟨loadedMachine raised, runIn_current_tool raised, rfl⟩

/-- The host runtime of the machine. -/
theorem hostIn_tool (raised : Option Failure) :
    (newRunner (projectOf [] .main toolLine) toolSettings).hostIn (readyMachine raised)
      = ⟨some (Path.ofString "/jdk8"), some "1.8.0_292"⟩ := by
  have hhome : (Path.ofString "/jdk8").child "release" = ⟨.root, ["jdk8", "release"]⟩ := by
    decide +kernel
  have hlocate : toolTree.locate [] false ⟨.root, ["jdk8", "release"]⟩ = .ok ["jdk8", "release"] :=
    FileTree.locate_of_directories (by decide) (by decide) (by decide) (by decide)
      (FileTree.ne_link_of_file rfl)
  have hread : (readyMachine raised).tree.read (readyMachine raised).cwd
      ((Path.ofString "/jdk8").child "release")
        = .ok (Text.utf8 "JAVA_VERSION=\"1.8.0_292\"\n") := by
    rw [hhome]
    exact FileTree.read_of_locate hlocate rfl
  have hversion : Host.releaseVersion? (Text.decodeLossy (Text.utf8 "JAVA_VERSION=\"1.8.0_292\"\n"))
      = some "1.8.0_292" := by
    decide +kernel
  -- The home of the environment names the release file that is read.
  show Host.mk (some (Path.ofString "/jdk8")) (Host.installedVersion? _ _) = _
  unfold Host.installedVersion?
  rw [hread]
  exact congrArg _ hversion

/-- A run of the machine is validated without a fork. -/
theorem exists_validate_tool (raised : Option Failure) :
    ∃ config, (Validation.validate (parametersOf toolLine) (projectOf [] .main toolLine)
        ((newRunner (projectOf [] .main toolLine) toolSettings).hostIn (readyMachine raised))
        .main).runIn (readyMachine raised) = (.ok config, readyMachine raised) ∧
      config.fork = false := by
  rw [hostIn_tool]
  exact Validation.runIn_validate_of_host rfl rfl rfl _ _ _

/-- The entry point of the machine can be loaded. -/
theorem entry_tool (raised : Option Failure) :
    (Embedded.EntryPoint.named toolSettings.runner.entryPoint).entry
      (Runner.chosen Embedded.name .main (readyMachine raised))
        = .ok ⟨"retrolambda:run", 0, raised⟩ := by
  have hdot : "retrolambda".startsWith "." = false := by decide +kernel
  have hparts : Text.parts '.' "retrolambda" = ["retrolambda"] := by decide +kernel
  have hpath : Text.parts '.' "run" = ["run"] := by decide +kernel
  have hload : Modules.load (readyMachine raised) "retrolambda"
      = .ok (Modules.object (readyMachine raised) "retrolambda") := by
    unfold Modules.load Modules.loadAll
    rw [hdot, hparts]
    rfl
  have hspec : Embedded.splitSpec "retrolambda:run" = .ok ("retrolambda", "run") := by rfl
  -- The message before the call does not change what can be imported.
  rw [Runner.chosen, Embedded.entry_recorded]
  show Embedded.load (readyMachine raised) "retrolambda:run" = _
  unfold Embedded.load
  rw [hspec]
  dsimp only
  rw [hpath, Modules.member, hload]
  rfl

/-- The order to stop that is no failure. -/
def leave : Failure :=
  ⟨.stop "SystemExit" "0", []⟩

/-- An entry point that leaves in this way gives no result, and the exit code is zero. -/
theorem exitCode_of_leave :
    Accepted .standard toolWords (toolMachine (some leave)) .main ⟨[], toolWords⟩ toolLine
        toolSettings (readyMachine (some leave)) ∧
      Layout [] .main toolLine (projectOf [] .main toolLine) ∧
      Options toolLine (parametersOf toolLine) ∧
      (Runner.create (projectOf [] .main toolLine) (some toolSettings)).runIn
          (readyMachine (some leave))
        = (.ok (newRunner (projectOf [] .main toolLine) toolSettings),
          readyMachine (some leave)) ∧
      ((Runner.execute (parametersOf toolLine) .main).runOn
          (newRunner (projectOf [] .main toolLine) toolSettings)
          (readyMachine (some leave))).1.1 = .error leave ∧
      (run toolWords (toolMachine (some leave))).1.exitCode = 0 := by
  obtain ⟨config, hvalid, hfork⟩ := exists_validate_tool (some leave)
  obtain ⟨houtcome, hrun⟩ := (accepted_tool (some leave)).run_of_exit rfl hvalid hfork
    (entry_tool (some leave)) rfl
  refine ⟨accepted_tool _, layout_iff.mpr rfl, options_iff.mpr rfl, rfl, houtcome, ?_⟩
  rw [run, hrun]
  decide +kernel

/-- An entry point that returns is called with the classpath, and the exit code is zero. -/
theorem run_refines_execute_tool :
    (run toolWords (toolMachine none)).1.exitCode = 0 ∧
      ∃ target before after, (run toolWords (toolMachine none)).2.calls
        = [⟨target, before ++ (BuildConfig.classpathKey, "a.jar:b.jar") :: after⟩] := by
  obtain ⟨config, hvalid, hfork⟩ := exists_validate_tool none
  obtain ⟨houtcome, hworld⟩ := Runner.runOn_execute_of_embedded (by rfl) hvalid hfork
  obtain ⟨duration, hresult⟩ := Embedded.exists_fst_run (entry_tool none) config
  obtain ⟨r, outcome, r', w', launch, -, hr, hrun, hsame, -, hdelivered, -, -, hcodes⟩ :=
    run_refines_execute (accepted_tool none) (layout_iff.mpr rfl) (options_iff.mpr rfl)
  obtain rfl : newRunner (projectOf [] .main toolLine) toolSettings = r :=
    Except.ok.inj (Prod.mk.inj hr).1
  rw [hrun] at houtcome hworld
  dsimp only at houtcome hworld
  -- The entry point was called, so that the classpath was handed over to it.
  have hcalls : w'.calls ≠ [] := by
    have hcalled := Embedded.calls_run (entry_tool none) config
    rw [hworld, (Runner.onlyRecorded_reported _ _).idle.calls]
    exact hcalled.trans_ne (List.append_ne_nil_of_right_ne_nil _ (List.cons_ne_nil _ _))
  have hreturned := houtcome.trans hresult
  obtain ⟨hzero, -⟩ := hcodes Toolkit.regular_standard fun e he => nomatch hreturned.symm.trans he
  refine ⟨hzero.mpr ⟨_, hreturned, rfl⟩, ?_⟩
  rw [run, hsame]
  rcases hdelivered.called with hnone | ⟨target, before, after, hcall, -⟩
  · exact absurd hnone hcalls
  · exact ⟨target, before, after, hcall⟩

end Downlevel.CommandLine
