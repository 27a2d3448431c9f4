import Downlevel.Proofs.Forked.Course
import Downlevel.Proofs.Runner.Collaborators
/-!
# The course of a run

A run that is not skipped validates its parameters. Then it either calls the entry point, or it loads
the toolchains, finds out the version, and runs in a process. Its course says at which of these stages
it ends. As for a forked run, every stage starts in the world that the one before it left, so a stage
that fails is the last that has any effect.
-/
namespace Downlevel.Runner

/-- What keeps the jar of a runner up to date. -/
def acquirer (r : Runner) : Acquirer :=
  ⟨r.repositoryIn, r.project.buildDir⟩

/-- The backend of a forked run. -/
def backendOf (r : Runner) (w : World) (config : BuildConfig) (registry : Registry)
    (version : String) : Forked.Backend where
  acquirer := r.acquirer
  java := .deferred do
    return (← Resolution.resolve (r.runtimeContext w config.java8Home registry)
      Resolution.chain).executable
  version

/-- The world in which a run is carried out: it is told by what. -/
def chosen (carrierName : String) (goal : Goal) (w : World) : World :=
  w.recorded logger .debug ("Using " ++ carrierName ++ " backend for " ++ goal.name)

/-- The world after a run: a result is told. -/
def reported (outcome : Except Failure Result) (w : World) : World :=
  match outcome with
  | .ok result => w.recorded logger .debug ("Retrolambda result: " ++ result.summary.print)
  | .error _ => w

/-- How a run that is not skipped can go: the launch of a Java process, if it comes so far, its
outcome, and the world that it ends in. -/
inductive Course (parameters : Parameters) (goal : Goal) (r : Runner) (w : World) :
    Option Forked.Launch → Except Failure Result → World → Prop
  | invalid {e : Failure} {x : World} :
      (Validation.validate parameters r.project (r.hostIn w) goal).runIn w = (.error e, x) →
      Course parameters goal r w none (.error e) x
  | embedded {config : BuildConfig} {x y : World} {outcome : Except Failure Result} :
      (Validation.validate parameters r.project (r.hostIn w) goal).runIn w = (.ok config, x) →
      config.fork = false →
      (Embedded.run (.named r.settings.runner.entryPoint) config).runIn
        (chosen Embedded.name goal x) = (outcome, y) →
      Course parameters goal r w none outcome (reported outcome y)
  | notLoaded {config : BuildConfig} {x y : World} {e : Failure} :
      (Validation.validate parameters r.project (r.hostIn w) goal).runIn w = (.ok config, x) →
      config.fork = true →
      r.loading.runIn x = (.error e, y) →
      Course parameters goal r w none (.error e) y
  | unknownVersion {config : BuildConfig} {x y : World} {registry : Registry} {e : Failure} :
      (Validation.validate parameters r.project (r.hostIn w) goal).runIn w = (.ok config, x) →
      config.fork = true →
      r.loading.runIn x = (.ok registry, y) →
      Artifact.detectVersion y r.settings.runner.version = .error e →
      Course parameters goal r w none (.error e) y
  | forked {config : BuildConfig} {x y z : World} {registry : Registry} {version : String}
      {launch : Option Forked.Launch} {outcome : Except Failure Result} :
      (Validation.validate parameters r.project (r.hostIn w) goal).runIn w = (.ok config, x) →
      config.fork = true →
      r.loading.runIn x = (.ok registry, y) →
      Artifact.detectVersion y r.settings.runner.version = .ok version →
      Forked.Course config (r.backendOf w config registry version) (chosen Forked.name goal y)
        launch outcome z →
      Course parameters goal r w launch outcome (reported outcome z)

variable {parameters : Parameters} {goal : Goal} {r : Runner} {w : World} {config : BuildConfig}

/-! ## Every run has a course -/

/-- Without a fork the run is carried by the entry point of the settings. -/
theorem runOn_carrier_embedded (h : config.fork = false) :
    (carrier config).runOn r w
      = ((.ok (.embedded (.named r.settings.runner.entryPoint)), r), w) := by
  unfold carrier
  rw [ActionOn.runOn_bind_ok (ActionOn.runOn_thing r w), h]
  rfl

/-- A forked run needs the toolchains first, and then the version. -/
theorem runOn_carrier_forked (h : config.fork = true) :
    (carrier config).runOn r w = match r.loading.runIn w with
      | (.error e, y) => ((.error e, r), y)
      | (.ok registry, y) =>
        (((Artifact.detectVersion y r.settings.runner.version).map fun version =>
            .forked (r.backendOf y config registry version),
          { r with
            toolchains := some registry
            host := some (r.hostIn y)
            repository := some r.repositoryIn }), y) := by
  unfold carrier
  rw [ActionOn.runOn_bind_ok (ActionOn.runOn_thing r w), if_pos h, ActionOn.runOn_bind,
    runOn_context]
  rcases r.loading.runIn w with ⟨e | registry, y⟩
  · rfl
  · dsimp only
    rw [ActionOn.runOn_bind_ok (runOn_useRepository _ y),
      ActionOn.runOn_bind_ok (ActionOn.runOn_lift _ _ y), ActionOn.runOn_bind, ActionOn.runOn_lift,
      Action.runIn_view, Action.runIn_ofExcept]
    dsimp only [id]
    rcases Artifact.detectVersion y r.settings.runner.version with e | version <;> rfl

/-- What is left to do once it is known what carries out a run. -/
def finish (c : Carrier) (config : BuildConfig) (goal : Goal) : Step Result := do
  tell .debug ("Using " ++ c.name ++ " backend for " ++ goal.name)
  let result ← ActionOn.lift (c.run config)
  tell .debug ("Retrolambda result: " ++ result.summary.print)
  return result

theorem runIn_run_embedded (point : Embedded.EntryPoint) (config : BuildConfig) (w : World) :
    ((Carrier.embedded point).run config).runIn w = (Embedded.run point config).runIn w := rfl

/-- A forked run forgets what became of its backend. -/
theorem runIn_run_forked (b : Forked.Backend) (config : BuildConfig) (w : World) :
    ((Carrier.forked b).run config).runIn w
      = (((Forked.run config).runOn b w).1.1, ((Forked.run config).runOn b w).2) := rfl

/-- What carries the run is told, runs, and its outcome is reported. -/
theorem runOn_finish (c : Carrier) :
    (finish c config goal).runOn r w
      = ((((c.run config).runIn (chosen c.name goal w)).1, r),
        reported ((c.run config).runIn (chosen c.name goal w)).1
          ((c.run config).runIn (chosen c.name goal w)).2) := by
  have htold : (tell .debug ("Using " ++ c.name ++ " backend for " ++ goal.name)).runOn r w
      = ((.ok ⟨⟩, r), chosen c.name goal w) := rfl
  unfold finish
  rw [ActionOn.runOn_bind_ok htold, ActionOn.runOn_bind, ActionOn.runOn_lift]
  rcases (c.run config).runIn (chosen c.name goal w) with ⟨e | result, x⟩ <;> rfl

/-- A run that is not skipped validates, loads the toolchains, and is carried out. -/
theorem runOn_execute (hskip : parameters.skip = false) :
    (execute parameters goal).runOn r w
      = match (Validation.validate parameters r.project (r.hostIn w) goal).runIn w with
        | (.error e, x) => ((.error e, { r with host := some (r.hostIn w) }), x)
        | (.ok config, x) => (carrier config >>= fun c => finish c config goal).runOn
            { r with host := some (r.hostIn w) } x := by
  unfold execute
  rw [hskip, if_neg Bool.false_ne_true, ActionOn.runOn_bind_ok (runOn_useHost r w),
    ActionOn.runOn_bind_ok (ActionOn.runOn_thing _ w), ActionOn.runOn_bind, ActionOn.runOn_lift]
  rcases (Validation.validate parameters r.project (r.hostIn w) goal).runIn w with ⟨e | config, x⟩
    <;> rfl

/-- A run without a fork is the run through its entry point. -/
theorem runOn_execute_of_embedded {x : World} (hskip : parameters.skip = false)
    (hvalid : (Validation.validate parameters r.project (r.hostIn w) goal).runIn w
      = (.ok config, x)) (hfork : config.fork = false) :
    ((execute parameters goal).runOn r w).1.1
        = ((Embedded.run (.named r.settings.runner.entryPoint) config).runIn
            (chosen Embedded.name goal x)).1 ∧
      ((execute parameters goal).runOn r w).2
        = reported ((Embedded.run (.named r.settings.runner.entryPoint) config).runIn
            (chosen Embedded.name goal x)).1
          ((Embedded.run (.named r.settings.runner.entryPoint) config).runIn
            (chosen Embedded.name goal x)).2 := by
  rw [runOn_execute hskip, hvalid]
  dsimp only
  rw [ActionOn.runOn_bind_ok (runOn_carrier_embedded hfork), runOn_finish, runIn_run_embedded]
  exact ⟨rfl, rfl⟩

/-- Every run that is not skipped has a course. -/
theorem exists_course (hskip : parameters.skip = false) (goal : Goal) (r : Runner) (w : World) :
    ∃ launch, Course parameters goal r w launch ((execute parameters goal).runOn r w).1.1
      ((execute parameters goal).runOn r w).2 := by
  rcases hvalid : (Validation.validate parameters r.project (r.hostIn w) goal).runIn w with
    ⟨e | config, x⟩
  · rw [runOn_execute hskip, hvalid]
    exact ⟨none, .invalid hvalid⟩
  · cases hfork : config.fork with
    | false =>
      obtain ⟨houtcome, hworld⟩ := runOn_execute_of_embedded hskip hvalid hfork
      rw [houtcome, hworld]
      exact ⟨none, .embedded hvalid hfork (Prod.ext rfl rfl)⟩
    | true =>
      -- The host was looked up on the way, but the toolchains do not depend on it.
      have hloading : Runner.loading { r with host := some (r.hostIn w) } = r.loading := rfl
      rw [runOn_execute hskip, hvalid]
      dsimp only
      rw [ActionOn.runOn_bind, runOn_carrier_forked hfork, hloading]
      rcases hload : r.loading.runIn x with ⟨e | registry, y⟩
      · exact ⟨none, .notLoaded hvalid hfork hload⟩
      · dsimp only
        cases hversion : Artifact.detectVersion y r.settings.runner.version with
        | error e => exact ⟨none, .unknownVersion hvalid hfork hload hversion⟩
        | ok version =>
          obtain ⟨launch, hcourse⟩ := Forked.exists_course config
            (r.backendOf w config registry version) (chosen Forked.name goal y)
          simp only [Except.map]
          rw [runOn_finish, runIn_run_forked]
          exact ⟨launch, .forked hvalid hfork hload hversion hcourse⟩

/-! ## The search for Java -/

/-- The search for Java of a runner is the resolution of its runtime. -/
theorem runOn_javaCommand_backendOf {config : BuildConfig} {registry : Registry} {version : String}
    {x y : World} {b' : Forked.Backend} {result : Except Failure String}
    (h : Forked.javaCommand.runOn (r.backendOf w config registry version) x = ((result, b'), y)) :
    ((Resolution.resolve (r.runtimeContext w config.java8Home registry)
        Resolution.chain).runIn x).1.map Candidate.executable = result ∧
      ((Resolution.resolve (r.runtimeContext w config.java8Home registry)
        Resolution.chain).runIn x).2 = y := by
  obtain ⟨hresult, hworld⟩ := Forked.runOn_javaCommand
    (b := r.backendOf w config registry version) rfl x
  rw [h, Action.runIn_bind_pure] at hresult hworld
  exact ⟨hresult.symm, hworld.symm⟩

end Downlevel.Runner
