import Downlevel.Proofs.ClasspathFile.Pending
import Downlevel.Proofs.Resolution.Override
import Downlevel.Proofs.Runner.Course
/-!
# The stages of a run

What a run starts, calls and returns is read off its course. A run that is not forked starts nothing
and calls the entry point at most once. A forked run calls nothing, and starts Java once if all stages
before have ended well, and otherwise never. A result is one of an entry point, of a Java process, or
of a jar that is not published; then the acquisition of the jar is all that happened.
-/
namespace Downlevel.Runner

variable {parameters : Parameters} {goal : Goal} {r : Runner} {w w' : World}
  {launch : Option Forked.Launch} {outcome : Except Failure Result}

/-! ## The acquisition of the jar -/

/-- What the acquisition of the jar may start: nothing with a directory of artifacts, and nothing but
the build tool, once, with a build tool. -/
def Fetches : Repository → List StartedProcess → Prop
  | .localStore _, started => started = []
  | .buildTool m, started =>
    started = [] ∨ ∃ process, started = [process] ∧ process.command.head? = some m.executable
  | .other _, _ => True

theorem fetches_nil (repository : Repository) : Fetches repository [] := by
  cases repository with
  | localStore root => rfl
  | buildTool m => exact Or.inl rfl
  | other copy => trivial

/-- An acquisition calls nothing, and starts what its repository may start. -/
theorem exists_fetches (a : Acquirer) (version : String) (w : World)
    (hcopy : ∀ copy, a.repository = .other copy →
      ∀ c destination, (copy c destination).Within World.NoCall) :
    ∃ fetched, Fetches a.repository fetched ∧
      ((a.ensurePresent version).runIn w).2.started = w.started ++ fetched ∧
      ((a.ensurePresent version).runIn w).2.calls = w.calls := by
  obtain ⟨hgrown, hcalls⟩ := a.within_ensurePresent World.covers_noCall version hcopy w
  cases hrepository : a.repository with
  | localStore root =>
    refine ⟨[], rfl, ?_, hcalls⟩
    rw [Acquirer.started_of_localStore hrepository, List.append_nil]
  | buildTool m =>
    obtain ⟨text, hstarted⟩ := Acquirer.started_of_buildTool hrepository version w
    exact ⟨_, Or.inr ⟨_, rfl, rfl⟩, hstarted, hcalls⟩
  | other copy =>
    obtain ⟨fetched, hfetched⟩ := hgrown
    exact ⟨fetched, trivial, hfetched.symm, hcalls⟩

/-! ## What is started and called -/

/-- Up to the toolchains a run only records messages. -/
theorem onlyRecorded_loaded {x y : World} {valid : Except Failure BuildConfig}
    {loaded : Except Failure Registry}
    (hvalid : (Validation.validate parameters r.project (r.hostIn w) goal).runIn w = (valid, x))
    (hload : r.loading.runIn x = (loaded, y)) : w.OnlyRecorded y :=
  ((Validation.within_validate _ _ _ _).of_runIn hvalid).trans (r.within_loading.of_runIn hload)

theorem onlyRecorded_reported (outcome : Except Failure Result) (w : World) :
    w.OnlyRecorded (reported outcome w) := by
  cases outcome with
  | error e => exact .refl w
  | ok result => exact World.onlyRecorded_recorded _ _ _ _

/-- The search for Java of a runner starts nothing and calls nothing. -/
theorem deferred_backendOf (r : Runner) (w : World) (config : BuildConfig) (registry : Registry)
    (version : String) (find : Action String)
    (h : (r.backendOf w config registry version).java = .deferred find) :
    find.Within World.Idle := by
  cases h
  exact ((Resolution.within_resolve _ _).bind fun _ => Action.within_pure _).mono
    World.OnlyRecorded.idle

/-- What a run starts and calls, by what its validation gives. -/
def Discipline (parameters : Parameters) (goal : Goal) (r : Runner) (w : World)
    (launch : Option Forked.Launch) (w' : World) : Prop :=
  match (Validation.validate parameters r.project (r.hostIn w) goal).runIn w with
  | (.error _, _) => launch = none ∧ w'.started = w.started ∧ w'.calls = w.calls
  | (.ok config, _) =>
    if config.fork then
      w'.calls = w.calls ∧ ∃ fetched, Fetches r.repositoryIn fetched ∧
        w'.started = w.started ++ fetched ++ (launch.map Forked.Launch.process).toList
    else
      launch = none ∧ w'.started = w.started ∧
        (w'.calls = w.calls ∨ ∃ target, w'.calls = w.calls ++ [⟨target, config.properties⟩])

/-- A forked run keeps to its discipline if it ends before anything is started or called. -/
theorem discipline_of_idle {config : BuildConfig} {x : World}
    (hvalid : (Validation.validate parameters r.project (r.hostIn w) goal).runIn w
      = (.ok config, x))
    (hfork : config.fork = true) (h : w.Idle w') : Discipline parameters goal r w none w' := by
  unfold Discipline
  rw [hvalid]
  dsimp only
  rw [if_pos hfork]
  refine ⟨h.calls, [], fetches_nil _, ?_⟩
  rw [h.started, List.append_nil]
  exact (List.append_nil _).symm

/-- Every course starts what is allowed, and no more. -/
theorem Course.discipline (h : Course parameters goal r w launch outcome w')
    (hcopy : ∀ copy, r.repositoryIn = .other copy →
      ∀ c destination, (copy c destination).Within World.NoCall) :
    Discipline parameters goal r w launch w' := by
  cases h with
  | invalid hvalid =>
    unfold Discipline
    rw [hvalid]
    have hidle := ((Validation.within_validate _ _ _ _).of_runIn hvalid).idle
    exact ⟨rfl, hidle.started, hidle.calls⟩
  | @embedded config x y outcome hvalid hfork hrun =>
    unfold Discipline
    rw [hvalid]
    dsimp only
    rw [if_neg (by rw [hfork]; exact Bool.false_ne_true)]
    -- Around the call of the entry point nothing but messages.
    have hbefore : w.Idle (chosen Embedded.name goal x) :=
      (((Validation.within_validate _ _ _ _).of_runIn hvalid).trans
        (World.onlyRecorded_recorded _ _ _ _)).idle
    have hafter := (onlyRecorded_reported outcome y).idle
    obtain ⟨hstarted, hcalls⟩ := Embedded.started_run
      (.named r.settings.runner.entryPoint) config (chosen Embedded.name goal x)
    rw [hrun, hbefore.started, ← hafter.started] at hstarted
    rw [hrun, hbefore.calls, ← hafter.calls] at hcalls
    exact ⟨rfl, hstarted, hcalls⟩
  | notLoaded hvalid hfork hload =>
    exact discipline_of_idle hvalid hfork (onlyRecorded_loaded hvalid hload).idle
  | unknownVersion hvalid hfork hload hversion =>
    exact discipline_of_idle hvalid hfork (onlyRecorded_loaded hvalid hload).idle
  | @forked config x y z registry version launch outcome hvalid hfork hload hversion hrun =>
    unfold Discipline
    rw [hvalid]
    dsimp only
    rw [if_pos hfork]
    have hbefore : w.Idle (chosen Forked.name goal y) :=
      ((onlyRecorded_loaded hvalid hload).trans (World.onlyRecorded_recorded _ _ _ _)).idle
    have hafter := (onlyRecorded_reported outcome z).idle
    obtain ⟨hstarted, hcalls⟩ := hrun.started (deferred_backendOf r w config registry version)
    obtain ⟨fetched, hfetched, hacquired, hsame⟩ :=
      exists_fetches r.acquirer version (chosen Forked.name goal y) hcopy
    refine ⟨?_, fetched, hfetched, ?_⟩
    · rw [hafter.calls, hcalls, ← hbefore.calls, ← hsame]
      rfl
    · rw [hafter.started, hstarted, ← hbefore.started, ← hacquired]
      rfl

/-- The process of a launch is the last one that is started. -/
theorem Course.getLast?_started {l : Forked.Launch}
    (h : Course parameters goal r w (some l) outcome w') :
    w'.started.getLast? = some l.process := by
  cases h with
  | @forked config x y z registry version launch outcome _ _ _ _ hrun =>
    have hstarted := (hrun.started (deferred_backendOf r w config registry version)).1
    rw [(onlyRecorded_reported outcome z).idle.started, hstarted]
    exact List.getLast?_concat

/-! ## What a launch rests on -/

/-- Every stage before the launch of a process ended well, each in the world that the one before it
left. -/
inductive Reached (parameters : Parameters) (goal : Goal) (r : Runner) (w : World)
    (l : Forked.Launch) : Prop
  | intro {bytecode : Nat} {config : BuildConfig} {x y u : World} {registry : Registry}
      {version : String} {p : Path} {java : Candidate}
      (target : Validation.targetVersion parameters.target = .ok bytecode)
      (valid : (Validation.validate parameters r.project (r.hostIn w) goal).runIn w
        = (.ok config, x))
      (fork : config.fork = true)
      (loaded : r.loading.runIn x = (.ok registry, y))
      (known : Artifact.detectVersion y r.settings.runner.version = .ok version)
      (copied : (r.repositoryIn.copy (.retrolambda version) r.acquirer.jarPath).runIn
        (Acquirer.asked version (chosen Forked.name goal y)) = (.ok ⟨⟩, u))
      (written : (ClasspathFile.write (config.classpath.map Text.codePoints) none).runIn
        (u.recorded Forked.logger .info "Processing classes with Retrolambda")
          = (.ok p, l.written))
      (resolved : (Resolution.resolve (r.runtimeContext w config.java8Home registry)
        Resolution.chain).runIn l.written = (.ok java, l.ready))
      (planned : l.plan = Forked.plan config java.executable r.acquirer.jarPath p)
      (before : l.before = chosen Forked.name goal y)

/-- A course that launches a process has reached that stage. -/
theorem Course.reached {l : Forked.Launch}
    (h : Course parameters goal r w (some l) outcome w') : Reached parameters goal r w l := by
  cases h with
  | @forked config x y z registry version launch outcome hvalid hfork hload hversion hrun =>
    obtain ⟨⟨bytecode, htarget⟩, -⟩ := Validation.validate_eq_ok hvalid
    cases hrun with
    | @launched p x' y' z' java b' _ hget hwrite hsearch _ =>
      -- The jar is present as its copying went well, and Java is what was resolved.
      have hcopy := Acquirer.ensurePresent_eq_present.mp (Prod.ext hget rfl)
      obtain ⟨hjava, hworld⟩ := runOn_javaCommand_backendOf hsearch
      rcases hresolve : (Resolution.resolve (r.runtimeContext w config.java8Home registry)
        Resolution.chain).runIn x' with ⟨e | found, v⟩
      · rw [hresolve] at hjava
        cases hjava
      · rw [hresolve] at hjava hworld
        cases hjava
        cases hworld
        exact ⟨htarget, hvalid, hfork, hload, hversion, hcopy, hwrite, hresolve, rfl, rfl⟩

/-- A run whose stages before the launch all end well comes to the launch. -/
theorem Course.launch_eq {l : Forked.Launch} (h : Course parameters goal r w launch outcome w')
    (hl : Reached parameters goal r w l) : launch = some l := by
  obtain @⟨bytecode, config, x, y, u, registry, version, p, java, htarget, hvalid, hfork, hload,
    hversion, hcopy, hwrite, hresolve, hplan, hbefore⟩ := hl
  -- Each stage was passed with a result that leaves only one way for the course.
  cases h with
  | invalid hother => cases hvalid.symm.trans hother
  | embedded hother hembedded _ =>
    cases hvalid.symm.trans hother
    cases hfork.symm.trans hembedded
  | notLoaded hother _ hfailed =>
    cases hvalid.symm.trans hother
    cases hload.symm.trans hfailed
  | unknownVersion hother _ hsame hfailed =>
    cases hvalid.symm.trans hother
    cases hload.symm.trans hsame
    cases hversion.symm.trans hfailed
  | forked hother _ hsame hknown hrun =>
    cases hvalid.symm.trans hother
    cases hload.symm.trans hsame
    cases hversion.symm.trans hknown
    have hpresent : (r.acquirer.ensurePresent version).runIn (chosen Forked.name goal y)
        = (.ok .present, u) := Acquirer.ensurePresent_eq_present.mpr hcopy
    have hready : Forked.readyWorld (r.backendOf w config registry version)
        (chosen Forked.name goal y)
          = u.recorded Forked.logger .info "Processing classes with Retrolambda" :=
      congrArg (fun v => World.recorded v Forked.logger .info
        "Processing classes with Retrolambda") (congrArg Prod.snd hpresent)
    cases hrun with
    | notAcquired hget => cases hget.symm.trans (congrArg Prod.fst hpresent)
    | notPublished hget => cases hget.symm.trans (congrArg Prod.fst hpresent)
    | notWritten _ hfailed =>
      rw [hready] at hfailed
      cases hwrite.symm.trans hfailed
    | notResolved _ hwritten hfailed =>
      rw [hready] at hwritten
      cases hwrite.symm.trans hwritten
      have hjava := (runOn_javaCommand_backendOf hfailed).1
      rw [hresolve] at hjava
      cases hjava
    | launched _ hwritten hsearch _ =>
      rw [hready] at hwritten
      cases hwrite.symm.trans hwritten
      obtain ⟨hjava, hworld⟩ := runOn_javaCommand_backendOf hsearch
      rw [hresolve] at hjava hworld
      cases hjava
      cases hworld
      obtain ⟨plan, before, written, ready⟩ := l
      cases hplan
      cases hbefore
      rfl

/-! ## What is returned -/

/-- What the embedded run returns. -/
theorem Embedded.run_eq_ok {point : Embedded.EntryPoint} {config : BuildConfig} {result : Result}
    (h : (Embedded.run point config).runIn w = (.ok result, w')) :
    result.success = true ∧ result.skipped = false ∧ result.backend = some Embedded.name ∧
      result.command = none ∧ result.returnCode = none := by
  unfold Embedded.run at h
  obtain ⟨_, x, -, hstart⟩ := Action.runIn_bind_eq_ok h
  obtain ⟨start, y, -, hcall⟩ := Action.runIn_bind_eq_ok hstart
  obtain ⟨_, z, -, hstop⟩ := Action.runIn_bind_eq_ok hcall
  obtain ⟨stop, _, -, hresult⟩ := Action.runIn_bind_eq_ok hstop
  cases hresult
  exact ⟨rfl, rfl, rfl, rfl, rfl⟩

/-- The jar of a version is not published. Besides its acquisition nothing happened but that messages
were recorded: no classpath file was made. -/
def Unpublished (r : Runner) (w : World) (version : String) (w' : World) : Prop :=
  ∃ x y, w.OnlyRecorded x ∧ (r.acquirer.ensurePresent version).runIn x = (.ok .notPublished, y) ∧
    y.OnlyRecorded w'

/-- What a course returns, for a process and without one. -/
theorem Course.returned {result : Result}
    (h : Course parameters goal r w launch (.ok result) w') :
    result.success = true ∧
    ((launch = none ∧ result.skipped = false ∧ result.backend = some Embedded.name ∧
        result.command = none ∧ result.returnCode = none) ∨
      (∃ l, launch = some l ∧ result.skipped = false ∧ result.backend = some Forked.name ∧
        result.command = some l.process.command ∧ result.returnCode = some 0) ∨
      (launch = none ∧ ∃ version, Unpublished r w version w' ∧
        result = .skip ("Retrolambda " ++ version ++ " has not been packaged yet")
          (some Forked.name))) := by
  cases h with
  | embedded _ _ hrun =>
    obtain ⟨hsuccess, hshape⟩ := Embedded.run_eq_ok hrun
    exact ⟨hsuccess, Or.inl ⟨rfl, hshape⟩⟩
  | @forked config x y z registry version launch outcome hvalid hfork hload hversion hrun =>
    -- The process ended with zero, or the version is not published.
    rcases hrun.returned with ⟨l, rfl, hsuccess, hshape⟩ | ⟨rfl, hget, rfl, hworld⟩
    · exact ⟨hsuccess, Or.inr (Or.inl ⟨l, rfl, hshape⟩)⟩
    · refine ⟨rfl, Or.inr (Or.inr ⟨rfl, version, ?_, rfl⟩)⟩
      refine ⟨chosen Forked.name goal y, z, ?_, ?_, onlyRecorded_reported _ z⟩
      · exact (onlyRecorded_loaded hvalid hload).trans (World.onlyRecorded_recorded _ _ _ _)
      · rw [hworld]
        exact Prod.ext hget rfl

/-! ## The discipline of a run -/

/-- **The stages of a run.** Every run that is not skipped goes through its stages in order, and a
stage that fails is the last with an effect. What it starts and calls depends on its validation: no
process and at most one call without a fork; with one, no call, and one start of Java if all stages
before it ended well, and none otherwise. A result is successful and has one of three shapes. -/
theorem execute_stages (parameters : Parameters) (goal : Goal) (r : Runner) (w : World)
    (hskip : parameters.skip = false)
    (hcopy : ∀ copy, r.repositoryIn = .other copy →
      ∀ c destination, (copy c destination).Within World.NoCall) :
    ∃ launch outcome w',
      ((execute parameters goal).runOn r w).1.1 = outcome ∧
      ((execute parameters goal).runOn r w).2 = w' ∧
      Course parameters goal r w launch outcome w' ∧
      Discipline parameters goal r w launch w' ∧
      (∀ l, launch = some l ↔ Reached parameters goal r w l) ∧
      (∀ result, outcome = .ok result → result.success = true ∧
        ((launch = none ∧ result.skipped = false ∧ result.backend = some Embedded.name ∧
            result.command = none ∧ result.returnCode = none) ∨
          (∃ l, launch = some l ∧ result.skipped = false ∧ result.backend = some Forked.name ∧
            result.command = some l.process.command ∧ result.returnCode = some 0) ∨
          (launch = none ∧ ∃ version, Unpublished r w version w' ∧
            result = .skip ("Retrolambda " ++ version ++ " has not been packaged yet")
              (some Forked.name)))) := by
  obtain ⟨launch, hcourse⟩ := exists_course hskip goal r w
  refine ⟨launch, _, _, rfl, rfl, hcourse, hcourse.discipline hcopy, ?_, ?_⟩
  · -- The course has a launch if and only if that stage is reached.
    refine fun l => ⟨fun hlaunch => ?_, fun hreached => hcourse.launch_eq hreached⟩
    rw [hlaunch] at hcourse
    exact hcourse.reached
  · intro result hresult
    rw [hresult] at hcourse
    exact hcourse.returned

/-- A machine without files where nothing is recorded, and with a process to come. -/
def quietMachine : World :=
  { ClasspathFile.emptyMachine with
    log := ⟨.critical, []⟩
    scripts := [{}] }

/-- A runner that was given everything, and whose host runtime is not known to be new enough. -/
def givenRunner : Runner where
  project := { baseDir := ⟨.root, ["p"]⟩ }
  settings := ⟨⟨"tool:main", .directory, ⟨.root, ["m"]⟩, "mvn", some "2.5.8"⟩, ⟨none, none⟩,
    ⟨.info, "", none, false⟩⟩
  toolchains := some {}
  repository := some (.other fun _ _ => pure ())
  host := some { home := some ⟨.root, ["j"]⟩ }

/-- Where the first classpath file has a place, that of a run without a classpath can be written. -/
theorem runIn_write_of_hasPlace (h : ClasspathFile.HasPlace w) (hbreaks : w.breaks = []) :
    ∃ x, (ClasspathFile.write [] none).runIn w = (.ok ClasspathFile.firstFile, x) := by
  have hmake := congrArg Prod.fst h.runIn_make
  rcases ClasspathFile.runIn_write [] none w with
    ⟨p, bytes, n, tree, hrun, hmade, -⟩ | ⟨e, n, -, hmade⟩ |
    ⟨e, p, n, breaks, -, -, ⟨run, hrefused⟩ | ⟨b, hbreak⟩⟩
  · cases hmade.symm.trans hmake
    exact ⟨_, hrun⟩
  · cases hmade.symm.trans hmake
  · cases hrefused
  · rw [Files.nextBreak, hbreaks] at hbreak
    cases hbreak

/-- All stages of a run of it end well, and Java is the one of the host runtime. -/
theorem exists_reached_givenRunner :
    ∃ l, Reached { classpath := some [] } .main givenRunner quietMachine l ∧
      l.plan.executable = "/j/bin/java" := by
  obtain ⟨x, hwrite⟩ := runIn_write_of_hasPlace (w := quietMachine)
    ⟨rfl, rfl, by decide, by decide, rfl⟩ rfl
  have hlauncher : (javaExecutable ⟨.root, ["j"]⟩ none).toString = "/j/bin/java" := by cbv
  have hversion : Artifact.detectVersion quietMachine givenRunner.settings.runner.version
      = .ok "2.5.8" := rfl
  have hresolve : (Resolution.resolve (givenRunner.runtimeContext quietMachine none {})
      Resolution.chain).runIn x = (.ok ⟨"/j/bin/java", .host, none⟩, x) := by
    rw [Resolution.runIn_resolve_without_home x _ rfl, ← hlauncher]
    rfl
  exact ⟨⟨_, quietMachine, x, x⟩,
    ⟨rfl, rfl, rfl, rfl, hversion, rfl, hwrite, hresolve, rfl, rfl⟩, rfl⟩

/-- A run of it calls nothing and comes to the launch of that Java. -/
theorem execute_stages_given :
    ∃ l, ((execute { classpath := some [] } .main).runOn givenRunner quietMachine).2.calls = [] ∧
      l.plan.executable = "/j/bin/java" ∧
      Course { classpath := some [] } .main givenRunner quietMachine (some l)
        ((execute { classpath := some [] } .main).runOn givenRunner quietMachine).1.1
        ((execute { classpath := some [] } .main).runOn givenRunner quietMachine).2 := by
  have hcopy : ∀ copy, givenRunner.repositoryIn = .other copy →
      ∀ c destination, (copy c destination).Within World.NoCall := by
    rintro copy ⟨⟩ c destination
    exact Action.within_pure ()
  obtain ⟨l, hreached, hjava⟩ := exists_reached_givenRunner
  obtain ⟨launch, outcome, w', houtcome, hworld, hcourse, hdiscipline, hlaunch, -⟩ :=
    execute_stages { classpath := some [] } .main givenRunner quietMachine rfl hcopy
  rw [houtcome, hworld]
  cases (hlaunch l).mpr hreached
  exact ⟨l, hdiscipline.1, hjava, hcourse⟩

end Downlevel.Runner
