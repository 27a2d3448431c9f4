import Downlevel.Proofs.Registry.Loading
import Downlevel.Proofs.Runner.Validation
import Downlevel.Runner
/-!
# What a runner works with

The host runtime and the repository of a runner are always there when they are needed: they were
given, were made before, or are made now, and are kept. The toolchains of the settings are read from
a file, which can fail; then the runner stays as it was. Making any of them only records messages.
-/
namespace Downlevel

/-! ## Steps that only record -/

namespace Validation

theorem within_resolveFork (fork : Bool) (host : Host) :
    (resolveFork fork host).Within World.OnlyRecorded := by
  refine Action.Within.ite (Action.within_pure _) ((Action.within_ofExcept _).bind fun new => ?_)
  exact (Action.within_pure _).ite
    ((within_logAs_onlyRecorded _ _ _).bind fun _ => Action.within_pure _)

theorem within_validate (parameters : Parameters) (project : Project) (host : Host)
    (goal : Goal) : (validate parameters project host goal).Within World.OnlyRecorded := by
  refine (Action.within_ofExcept _).bind fun _ => (within_resolveFork _ _).bind fun _ => ?_
  exact (Action.within_view _).bind fun _ => Action.within_pure _

/-- What is validated has a known target, and keeps the home of Java that was given. -/
theorem validate_eq_ok {parameters : Parameters} {project : Project} {host : Host} {goal : Goal}
    {config : BuildConfig} {w w' : World}
    (h : (validate parameters project host goal).runIn w = (.ok config, w')) :
    (∃ bytecode, targetVersion parameters.target = .ok bytecode) ∧
      config.java8Home = parameters.java8Home := by
  obtain ⟨bytecode, forked, htarget, -, rfl⟩ := exists_of_validate h
  exact ⟨⟨bytecode, htarget⟩, rfl⟩

/-- A known target on a host that is new enough is validated without a fork, if none is asked for. -/
theorem runIn_validate_of_host {parameters : Parameters} {host : Host} {bytecode : Nat}
    (htarget : targetVersion parameters.target = .ok bytecode) (hfork : parameters.fork = false)
    (hhost : host.isAtLeast (Int.ofNat requiredMajor) = .ok true) (project : Project) (goal : Goal)
    (w : World) :
    ∃ config, (validate parameters project host goal).runIn w = (.ok config, w) ∧
      config.fork = false := by
  have hresolve : (resolveFork parameters.fork host).runIn w = (.ok false, w) := by
    unfold resolveFork
    rw [hfork, hhost]
    rfl
  exact ⟨_, runIn_validate htarget hresolve, rfl⟩

end Validation

namespace Runner

variable (r : Runner) (w : World)

theorem within_toolchainsOf (s : Settings) : (toolchainsOf s).Within World.OnlyRecorded := by
  refine (Registry.within_load _).bind fun registry => ?_
  split
  · exact (Registry.within_select _ _ _).bind fun _ => Action.within_pure _
  · exact Action.within_pure _

/-! ## Collaborators in closed form -/

/-- The host runtime that a runner works with in a world. -/
def hostIn : Host :=
  r.host.getD (Host.detect w w.environment)

/-- The toolchains that a runner works with: those it has, or those of its settings. -/
def loading : Action Registry :=
  match r.toolchains with
  | some registry => pure registry
  | none => toolchainsOf r.settings

/-- The repository that a runner works with. -/
def repositoryIn : Repository :=
  r.repository.getD (repositoryOf r.settings r.project)

/-- What the resolution of the Java runtime depends on, with the toolchains of a registry. -/
def runtimeContext (home : Option Path) (registry : Registry) : Resolution.Context where
  java8Home := home
  toolchains := registry
  host := r.hostIn w

theorem within_loading : r.loading.Within World.OnlyRecorded := by
  unfold loading
  split
  · exact Action.within_pure _
  · exact within_toolchainsOf _

/-- The host runtime is kept once it was needed. -/
theorem runOn_useHost :
    useHost.runOn r w = ((.ok (r.hostIn w), { r with host := some (r.hostIn w) }), w) := by
  unfold useHost hostIn
  rw [ActionOn.runOn_bind_ok (ActionOn.runOn_thing r w)]
  obtain ⟨project, settings, toolchains, repository, host⟩ := r
  cases host with
  | some host => rfl
  | none => rfl

/-- A runner that uses its repository keeps it. -/
theorem runOn_useRepository :
    useRepository.runOn r w
      = ((.ok r.repositoryIn, { r with repository := some r.repositoryIn }), w) := by
  unfold useRepository repositoryIn
  rw [ActionOn.runOn_bind_ok (ActionOn.runOn_thing r w)]
  obtain ⟨project, settings, toolchains, repository, host⟩ := r
  cases repository with
  | some repository => rfl
  | none => rfl

/-- The toolchains are kept once they were loaded. A failure to load them leaves the runner as it
was. -/
theorem runOn_useToolchains :
    useToolchains.runOn r w = match r.loading.runIn w with
      | (.ok registry, w') => ((.ok registry, { r with toolchains := some registry }), w')
      | (.error e, w') => ((.error e, r), w') := by
  unfold useToolchains loading
  rw [ActionOn.runOn_bind_ok (ActionOn.runOn_thing r w)]
  obtain ⟨project, settings, toolchains, repository, host⟩ := r
  cases toolchains with
  | some registry => rfl
  | none =>
    dsimp only
    rw [ActionOn.runOn_bind, ActionOn.runOn_lift]
    rcases (toolchainsOf settings).runIn w with ⟨e | registry, w'⟩ <;> rfl

/-- What a resolution depends on is the toolchains, and the host runtime in the world that their
loading leaves. -/
theorem runOn_context (home : Option Path) :
    (context home).runOn r w = match r.loading.runIn w with
      | (.ok registry, w') =>
        ((.ok (r.runtimeContext w' home registry),
          { r with toolchains := some registry, host := some (r.hostIn w') }), w')
      | (.error e, w') => ((.error e, r), w') := by
  unfold context
  rw [ActionOn.runOn_bind, runOn_useToolchains]
  rcases r.loading.runIn w with ⟨e | registry, w'⟩
  · rfl
  · dsimp only
    rw [ActionOn.runOn_bind_ok (runOn_useHost _ w')]
    rfl

end Runner

end Downlevel
