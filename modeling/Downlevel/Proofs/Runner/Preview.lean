import Downlevel.Proofs.Runner.Stages
/-!
# The Java runtime foretold

A runner can be asked which Java runtime a forked run would use. The answer is worked out from the
parameters, the run works from the validated configuration and later, when the jar and the classpath
file are there. Both agree as long as the launchers of the toolchains stay where they are, since the
toolchains and the host runtime are kept from the one to the other.
-/
namespace Downlevel

namespace Runner

variable {parameters : Parameters} {goal : Goal} {r : Runner} {w w' : World}

/-! ## Loading again -/

/-- The toolchains of settings are loaded alike after messages, unless their file is a log. -/
theorem toolchainsOf_congr {s : Settings} (h : w.OnlyRecorded w')
    (hfile : ∀ p, s.toolchain.file = some p → w.Unlogged p) :
    ((toolchainsOf s).runIn w').1 = ((toolchainsOf s).runIn w).1 := by
  have hload : ((Registry.load s.toolchain.file).runIn w').1
      = ((Registry.load s.toolchain.file).runIn w).1 := by
    cases hp : s.toolchain.file with
    | none => rfl
    | some p =>
      apply Registry.load_congr h.machine
      · rw [h.cwd, h.grown.sameShape.holds]
      · rw [h.cwd, h.grown.read (hfile p hp)]
  apply Action.fst_runIn_bind_congr hload
  intro registry
  split
  · exact (Registry.fixed_select _ _ _).bind fun _ => Action.fixed_pure _
  · exact Action.fixed_pure _

/-! ## The answer -/

/-- The answer is the resolution with the toolchains and the host runtime that are kept. -/
theorem runOn_resolveJava (parameters : Parameters) (r : Runner) (w : World) :
    (resolveJava parameters).runOn r w = match r.loading.runIn w with
      | (.ok registry, x) =>
        (((((Resolution.resolve (r.runtimeContext x parameters.java8Home registry)
            Resolution.chain).runIn x).1),
          { r with toolchains := some registry, host := some (r.hostIn x) }),
          ((Resolution.resolve (r.runtimeContext x parameters.java8Home registry)
            Resolution.chain).runIn x).2)
      | (.error e, x) => ((.error e, r), x) := by
  unfold resolveJava
  rw [ActionOn.runOn_bind, runOn_context]
  rcases r.loading.runIn w with ⟨e | registry, x⟩ <;> rfl

/-- A run that comes to its launch starts the Java of the answer, if the toolchains could be loaded
for the answer. -/
theorem answer_of_reached {answer : Except Failure Candidate} {r' : Runner} {l : Forked.Launch}
    (hanswer : (resolveJava parameters).runOn r w = ((answer, r'), w'))
    (hreached : Reached parameters goal r' w' l)
    (hlaunchers : ∀ registry t, r'.toolchains = some registry →
      Resolution.IsManaged registry t →
      Resolution.hasLauncher l.written none t = Resolution.hasLauncher l.before none t) :
    (∃ found, answer = .ok found ∧ l.plan.executable = found.executable) ∨
      ∃ e, r.loading.runIn w = (.error e, w') ∧ r' = r ∧ answer = .error e := by
  rw [runOn_resolveJava] at hanswer
  rcases hload : r.loading.runIn w with ⟨e | registry, v⟩
  · rw [hload] at hanswer
    cases hanswer
    exact Or.inr ⟨e, rfl, rfl, rfl⟩
  · left
    rw [hload] at hanswer
    cases hanswer
    obtain @⟨bytecode, config, x, y, u, registry', version, p, java, -, hvalid, -, hloaded, -, -, -,
      hresolve, hplan, hbefore⟩ := hreached
    cases hloaded
    -- The run has the toolchains and the host runtime of the answer.
    have hsame : (Resolution.resolve (r.runtimeContext v parameters.java8Home registry)
        Resolution.chain).runIn l.written = (.ok java, l.ready) := by
      rw [← (Validation.validate_eq_ok hvalid).2]
      exact hresolve
    -- Between the answer and the acquisition of the jar only messages are recorded.
    have hrecorded : v.OnlyRecorded l.before := by
      have hanswered := Resolution.within_resolve
        (r.runtimeContext v parameters.java8Home registry) Resolution.chain v
      have hvalidated := (Validation.within_validate _ _ _ _).of_runIn hvalid
      rw [hbefore]
      exact (hanswered.trans hvalidated).trans (World.onlyRecorded_recorded _ _ _ _)
    have hfound : ((Resolution.resolve (r.runtimeContext v parameters.java8Home registry)
        Resolution.chain).runIn l.written).1
          = ((Resolution.resolve (r.runtimeContext v parameters.java8Home registry)
              Resolution.chain).runIn v).1 :=
      Resolution.runIn_resolve_congr fun t ht => (hlaunchers registry t rfl ht).trans
        (Resolution.hasLauncher_of_onlyRecorded hrecorded none t)
    rw [hsame] at hfound
    exact ⟨java, hfound.symm, by rw [hplan]; rfl⟩

/-- Toolchains that cannot be loaded for the answer cannot be loaded for the run either, unless their
file is a log. -/
theorem not_reached_of_error {e : Failure} {l : Forked.Launch}
    (hload : r.loading.runIn w = (.error e, w'))
    (hfile : r.toolchains = none → ∀ p, r.settings.toolchain.file = some p → w.Unlogged p) :
    ¬ Reached parameters goal r w' l := by
  rintro @⟨bytecode, config, x, y, u, registry, version, p, java, -, hvalid, -, hloaded, -⟩
  have hrecorded : w.OnlyRecorded x :=
    (r.within_loading.of_runIn hload).trans ((Validation.within_validate _ _ _ _).of_runIn hvalid)
  unfold loading at hload hloaded
  cases htoolchains : r.toolchains with
  | some registry =>
    rw [htoolchains] at hload
    cases hload
  | none =>
    rw [htoolchains] at hload hloaded
    have hagain := toolchainsOf_congr hrecorded (hfile htoolchains)
    dsimp only at hload hloaded
    rw [hload, hloaded] at hagain
    cases hagain

/-! ## The answer and the run -/

/-- **The runtime foretold.** A runner is asked for its Java runtime, and then runs. If the run comes
to the start of a Java process, that is the last process started, and unless the jar or the classpath
file changed which launchers of toolchains are there, its command begins with the launcher of the
answer. There is an answer then, unless the log writes to the file of the toolchains. -/
theorem resolveJava_foretells (parameters : Parameters) (goal : Goal) (r : Runner) (w : World)
    (hskip : parameters.skip = false) :
    ∃ answer r' w' launch, (resolveJava parameters).runOn r w = ((answer, r'), w') ∧
      Course parameters goal r' w' launch ((execute parameters goal).runOn r' w').1.1
        ((execute parameters goal).runOn r' w').2 ∧
      ∀ l, launch = some l →
        ((execute parameters goal).runOn r' w').2.started.getLast? = some l.process ∧
        ((∀ registry t, r'.toolchains = some registry → Resolution.IsManaged registry t →
            Resolution.hasLauncher l.written none t = Resolution.hasLauncher l.before none t) →
          (∀ found, answer = .ok found → l.process.command.head? = some found.executable) ∧
          ((r.toolchains = none → ∀ p, r.settings.toolchain.file = some p → w.Unlogged p) →
            ∃ found, answer = .ok found)) := by
  rcases hanswer : (resolveJava parameters).runOn r w with ⟨⟨answer, r'⟩, w'⟩
  obtain ⟨launch, hcourse⟩ := exists_course hskip goal r' w'
  refine ⟨answer, r', w', launch, rfl, hcourse, ?_⟩
  rintro l rfl
  refine ⟨hcourse.getLast?_started, fun hlaunchers => ?_⟩
  have hreached := hcourse.reached
  rcases answer_of_reached hanswer hreached hlaunchers with
    ⟨found, rfl, hjava⟩ | ⟨e, hload, rfl, rfl⟩
  · refine ⟨?_, fun _ => ⟨found, rfl⟩⟩
    rintro other ⟨⟩
    exact congrArg some hjava
  · exact ⟨nofun, fun hfile => absurd hreached (not_reached_of_error hload hfile)⟩

/-- A runner without toolchains answers with the host runtime, and starts it. -/
theorem resolveJava_foretells_given :
    ((resolveJava { classpath := some [] }).runOn givenRunner quietMachine).1.1
        = .ok ⟨"/j/bin/java", .host, none⟩ ∧
      ∃ process,
        ((execute { classpath := some [] } .main).runOn givenRunner quietMachine).2.started.getLast?
          = some process ∧ process.command.head? = some "/j/bin/java" := by
  have hlauncher : (javaExecutable ⟨.root, ["j"]⟩ none).toString = "/j/bin/java" := by cbv
  have hgiven : (resolveJava { classpath := some [] }).runOn givenRunner quietMachine
      = ((.ok ⟨"/j/bin/java", .host, none⟩, givenRunner), quietMachine) := by
    have hloading : givenRunner.loading.runIn quietMachine = (.ok {}, quietMachine) := rfl
    rw [runOn_resolveJava, hloading]
    dsimp only
    rw [Resolution.runIn_resolve_without_home quietMachine _ rfl, ← hlauncher]
    rfl
  obtain ⟨answer, r', w', launch, hanswer, hcourse, hstarted⟩ :=
    resolveJava_foretells { classpath := some [] } .main givenRunner quietMachine rfl
  cases hgiven.symm.trans hanswer
  obtain ⟨l, hreached, -⟩ := exists_reached_givenRunner
  obtain ⟨hlast, hcommand⟩ := hstarted l (hcourse.launch_eq hreached)
  have hlaunchers : ∀ registry t, givenRunner.toolchains = some registry →
      Resolution.IsManaged registry t →
      Resolution.hasLauncher l.written none t = Resolution.hasLauncher l.before none t := by
    rintro registry t ⟨⟩ (hmem | hselected)
    · cases hmem
    · cases hselected
  refine ⟨by rw [hgiven], l.process, hlast, ?_⟩
  exact (hcommand hlaunchers).1 _ rfl

end Runner

end Downlevel
