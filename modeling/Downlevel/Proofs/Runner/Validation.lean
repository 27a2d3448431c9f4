import Downlevel.Proofs.FileTree.Entry
import Downlevel.Proofs.Runner.Forking
import Downlevel.Proofs.Text.Paths
/-!
# Validated configurations

A known target is all that a validation asks for. What it gives holds no open choices any more: the
directories are absolute, the classpath is there, and a fork that the host forces is recorded. So the
configuration, taken as parameters again, is validated to itself, whatever the project, the goal and
the working directory are then. Of a project a goal uses its own directory and its own classpath, and
not those of the other goal.
-/
namespace Downlevel

/-! ## Hosts -/

/-- The version of a host has no number that is too long to be read. -/
def Host.Readable (h : Host) : Prop :=
  ∀ v ∈ h.version, Version.Readable v.toList

/-- A host whose version can be read is new enough or it is too old. -/
theorem Host.exists_isAtLeast {h : Host} (hh : h.Readable) (n : Int) :
    ∃ b, h.isAtLeast n = .ok b := by
  have hmajor : ∃ major, h.major? = .ok major := by
    cases hversion : h.version with
    | none => exact ⟨none, by rw [major?, hversion]⟩
    | some v =>
      obtain ⟨major, hv⟩ := Version.exists_major? (hh v hversion)
      exact ⟨major, by rw [major?, hversion]; exact hv⟩
  obtain ⟨major, hmajor⟩ := hmajor
  rw [isAtLeast, hmajor]
  cases major with
  | none => exact ⟨false, rfl⟩
  | some m => exact ⟨_, rfl⟩

/-! ## What a goal uses of a project -/

/-- A project without the directory and the classpath of the other goal. -/
def Project.seenBy (p : Project) : Goal → Project
  | .main => { p with testOutputDirectory := none, testClasspath := [] }
  | .test => { p with outputDirectory := none, compileClasspath := [] }

/-! ## Parameters and configurations -/

/-- A failure of the parameters of a run. -/
def Failure.OfParameters (e : Failure) : Prop :=
  ∃ f, e.fault = .run f ∧ f.kind = .parameters

/-- The parameters that a configuration stands for. -/
def BuildConfig.parameters (c : BuildConfig) : Parameters where
  target := c.target
  defaultMethods := c.defaultMethods
  javacHacks := c.javacHacks
  quiet := c.quiet
  fork := c.fork
  fixJava8Classpath := c.fixJava8Classpath
  java8Home := c.java8Home
  inputDir := some c.inputDir
  outputDir := some c.outputDir
  classpath := some c.classpath

namespace Validation

/-! ## Validation in stages -/

/-- The configuration of parameters of which the target and the fork are settled, seen from a working
directory. -/
def configured (parameters : Parameters) (project : Project) (goal : Goal) (bytecode : Nat)
    (fork : Bool) (cwd : Path) : BuildConfig :=
  let inputDir := parameters.inputDir.getD (project.defaultInputDir goal)
  { target := parameters.target
    bytecodeVersion := Int.ofNat bytecode
    defaultMethods := parameters.defaultMethods
    quiet := parameters.quiet
    javacHacks := parameters.javacHacks
    fixJava8Classpath := parameters.fixJava8Classpath
    inputDir := inputDir.under cwd
    outputDir := (parameters.outputDir.getD inputDir).under cwd
    classpath := parameters.classpath.getD (project.defaultClasspath goal)
    fork
    java8Home := parameters.java8Home }

/-- Validation checks the target, settles the fork and completes the paths. -/
theorem validate_eq (parameters : Parameters) (project : Project) (host : Host) (goal : Goal) :
    validate parameters project host goal = (do
      let bytecode ← Action.ofExcept (targetVersion parameters.target)
      let fork ← resolveFork parameters.fork host
      let cwd ← Action.view fun w => FileTree.pathOf w.cwd
      return configured parameters project goal bytecode fork cwd) := rfl

variable {parameters : Parameters} {project : Project} {host : Host} {goal : Goal}
  {config : BuildConfig} {bytecode : Nat} {fork forked : Bool} {w w' : World}

/-- With the target and the fork settled there is one configuration. -/
theorem runIn_validate (htarget : targetVersion parameters.target = .ok bytecode)
    (hfork : (resolveFork parameters.fork host).runIn w = (.ok forked, w')) :
    (validate parameters project host goal).runIn w
      = (.ok (configured parameters project goal bytecode forked (FileTree.pathOf w'.cwd)), w') := by
  rw [validate_eq, htarget, Action.runIn_bind_ok (Action.runIn_ofExcept _ w),
    Action.runIn_bind_ok hfork]
  rfl

/-- A validation that ends well has a bytecode version for the target, and a settled fork. -/
theorem exists_of_validate
    (h : (validate parameters project host goal).runIn w = (.ok config, w')) :
    ∃ bytecode forked, targetVersion parameters.target = .ok bytecode ∧
      (resolveFork parameters.fork host).runIn w = (.ok forked, w') ∧
      config = configured parameters project goal bytecode forked (FileTree.pathOf w'.cwd) := by
  rw [validate_eq] at h
  obtain ⟨bytecode, v, htarget, hrest⟩ := Action.runIn_bind_eq_ok h
  obtain ⟨forked, v', hfork, hconfig⟩ := Action.runIn_bind_eq_ok hrest
  rw [Action.runIn_ofExcept] at htarget
  obtain ⟨hbytecode, rfl⟩ := Prod.mk.inj htarget
  cases hconfig
  exact ⟨bytecode, forked, hbytecode, hfork, rfl⟩

/-! ## Targets -/

/-- A target is known if and only if it is in the table. -/
theorem targetVersion_eq_ok {target : String} :
    targetVersion target = .ok bytecode ↔ targetVersions.lookup target = some bytecode := by
  unfold targetVersion
  split
  · rename_i n hlookup
    rw [hlookup, Except.ok.injEq, Option.some.injEq]
  · rename_i hlookup
    rw [hlookup]
    exact iff_of_false nofun nofun

/-- A target that is not in the table is refused, and nothing else is done. -/
theorem runIn_validate_of_unknown (h : parameters.target ∉ targetVersions.map Prod.fst)
    (project : Project) (host : Host) (goal : Goal) (w : World) :
    ∃ e, (validate parameters project host goal).runIn w = (.error e, w) ∧ e.OfParameters := by
  have hlookup : targetVersions.lookup parameters.target = none := by
    rw [List.lookup_eq_none_iff]
    intro entry hentry
    rw [bne_iff_ne]
    exact fun htarget => h (htarget ▸ List.mem_map_of_mem hentry)
  have hrefused : ∃ e, targetVersion parameters.target = .error e ∧ e.OfParameters :=
    ⟨_, by rw [targetVersion, hlookup], _, rfl, rfl⟩
  obtain ⟨e, htarget, he⟩ := hrefused
  refine ⟨e, ?_, he⟩
  rw [validate_eq, htarget, Action.runIn_bind, Action.runIn_ofExcept]

/-! ## What is settled -/

/-- What a configuration takes from its parameters, and from the project for a goal. -/
structure Settles (parameters : Parameters) (project : Project) (goal : Goal) (config : BuildConfig) :
    Prop where
  target : config.target = parameters.target
  bytecodeVersion : ∃ n, targetVersions.lookup parameters.target = some n ∧
    config.bytecodeVersion = Int.ofNat n
  defaultMethods : config.defaultMethods = parameters.defaultMethods
  quiet : config.quiet = parameters.quiet
  javacHacks : config.javacHacks = parameters.javacHacks
  fixJava8Classpath : config.fixJava8Classpath = parameters.fixJava8Classpath
  java8Home : config.java8Home = parameters.java8Home
  inputDir : config.inputDir.isAbsolute = true
  outputDir : config.outputDir.isAbsolute = true
  /-- Classes are written where they were read, if nothing else is asked for. -/
  outputDir_eq : parameters.outputDir = none → config.outputDir = config.inputDir
  /-- A given classpath is taken as it is, even an empty one. -/
  given_classpath : ∀ entries, parameters.classpath = some entries → config.classpath = entries
  default_classpath : parameters.classpath = none →
    config.classpath = project.defaultClasspath goal

/-- The configuration of a known target settles the parameters. -/
theorem settles_configured (htarget : targetVersion parameters.target = .ok bytecode)
    (project : Project) (goal : Goal) (fork : Bool) {cwd : Path} (hcwd : cwd.isAbsolute = true) :
    Settles parameters project goal (configured parameters project goal bytecode fork cwd) where
  target := rfl
  bytecodeVersion := ⟨bytecode, targetVersion_eq_ok.mp htarget, rfl⟩
  defaultMethods := rfl
  quiet := rfl
  javacHacks := rfl
  fixJava8Classpath := rfl
  java8Home := rfl
  inputDir := Path.isAbsolute_under hcwd _
  outputDir := Path.isAbsolute_under hcwd _
  outputDir_eq := by
    intro hnone
    unfold configured
    rw [hnone]
    rfl
  given_classpath := by
    intro entries hsome
    unfold configured
    rw [hsome]
    rfl
  default_classpath := by
    intro hnone
    unfold configured
    rw [hnone]
    rfl

/-- What validation gives settles the parameters. -/
theorem settles_of_validate
    (h : (validate parameters project host goal).runIn w = (.ok config, w')) :
    Settles parameters project goal config := by
  obtain ⟨bytecode, forked, htarget, -, rfl⟩ := exists_of_validate h
  exact settles_configured htarget project goal forked (FileTree.isAbsolute_pathOf _)

/-- A known target on a host whose version can be read is validated. -/
theorem exists_configuration (hhost : host.Readable)
    (htarget : parameters.target ∈ targetVersions.map Prod.fst) (project : Project) (goal : Goal)
    (w : World) :
    ∃ config w', (validate parameters project host goal).runIn w = (.ok config, w') := by
  obtain ⟨new, hnew⟩ := Host.exists_isAtLeast hhost (Int.ofNat requiredMajor)
  rw [← Bool.not_not new] at hnew
  obtain ⟨config, hrun, -⟩ := forkedOn hnew parameters project goal w htarget
  exact ⟨config, _, hrun⟩

/-- Of a project only what the goal uses is looked at. -/
theorem validate_seenBy (parameters : Parameters) (project : Project) (host : Host) (goal : Goal) :
    validate parameters (project.seenBy goal) host goal = validate parameters project host goal := by
  cases goal <;> rfl

/-- **What a validation settles.** On a host whose version can be read it is refused just for a target
that is not in the table, and then nothing is told. Otherwise there is a configuration: with the
bytecode version of the target and all that was given, with absolute directories, and with the classpath
that was given, if one was. Projects that differ in what the other goal uses alone are validated alike. -/
theorem validation_settles (parameters : Parameters) (project : Project) {host : Host}
    (hhost : host.Readable) (goal : Goal) (w : World) :
    ((∃ e w', (validate parameters project host goal).runIn w = (.error e, w') ∧ e.OfParameters) ↔
      parameters.target ∉ targetVersions.map Prod.fst) ∧
    (parameters.target ∉ targetVersions.map Prod.fst →
      ((validate parameters project host goal).runIn w).2 = w) ∧
    (parameters.target ∈ targetVersions.map Prod.fst →
      ∃ config w', (validate parameters project host goal).runIn w = (.ok config, w') ∧
        Settles parameters project goal config) ∧
    ∀ other : Project, other.seenBy goal = project.seenBy goal →
      validate parameters other host goal = validate parameters project host goal := by
  refine ⟨⟨?_, ?_⟩, ?_, ?_, ?_⟩
  · rintro ⟨e, w', hrun, -⟩ htarget
    obtain ⟨config, w'', hconfig⟩ := exists_configuration hhost htarget project goal w
    cases hrun.symm.trans hconfig
  · intro htarget
    obtain ⟨e, hrun, he⟩ := runIn_validate_of_unknown htarget project host goal w
    exact ⟨e, w, hrun, he⟩
  · intro htarget
    obtain ⟨e, hrun, -⟩ := runIn_validate_of_unknown htarget project host goal w
    rw [hrun]
  · intro htarget
    obtain ⟨config, w', hrun⟩ := exists_configuration hhost htarget project goal w
    exact ⟨config, w', hrun, settles_of_validate hrun⟩
  · -- Validation sees of a project only what belongs to the goal.
    intro other hseen
    rw [← validate_seenBy parameters other, hseen, validate_seenBy]

/-- A relative base directory and an empty classpath, whatever the tests of the project are. -/
theorem validation_settles_relative :
    ({ version := some "1.8.0_292" } : Host).Readable ∧
    ∃ config w', (validate { target := "1.8", classpath := some [] }
        { baseDir := ⟨.here, ["app"]⟩, compileClasspath := ["a.jar"], testClasspath := ["b.jar"] }
        { version := some "1.8.0_292" } .main).runIn
          { tree := .empty, cwd := ["work"], environment := [] } = (.ok config, w') ∧
      config.inputDir.isAbsolute = true ∧ config.outputDir = config.inputDir ∧
      config.classpath = [] ∧
      validate { target := "1.8", classpath := some [] }
          { baseDir := ⟨.here, ["app"]⟩, compileClasspath := ["a.jar"] }
          { version := some "1.8.0_292" } .main
        = validate { target := "1.8", classpath := some [] }
          { baseDir := ⟨.here, ["app"]⟩, compileClasspath := ["a.jar"], testClasspath := ["b.jar"] }
          { version := some "1.8.0_292" } .main := by
  have hhost : ({ version := some "1.8.0_292" } : Host).Readable := by
    rintro v ⟨⟩
    exact Version.readable_of_length_le (by decide)
  obtain ⟨-, -, hknown, halike⟩ := validation_settles { target := "1.8", classpath := some [] }
    { baseDir := ⟨.here, ["app"]⟩, compileClasspath := ["a.jar"], testClasspath := ["b.jar"] }
    hhost .main { tree := .empty, cwd := ["work"], environment := [] }
  obtain ⟨config, w', hrun, hsettles⟩ := hknown (by decide)
  exact ⟨hhost, config, w', hrun, hsettles.inputDir, hsettles.outputDir_eq rfl,
    hsettles.given_classpath [] rfl, halike _ rfl⟩

/-! ## Validating again -/

/-- A configuration with absolute directories is made of its own parameters, wherever that is done. -/
theorem configured_parameters (hin : config.inputDir.isAbsolute = true)
    (hout : config.outputDir.isAbsolute = true)
    (hversion : config.bytecodeVersion = Int.ofNat bytecode) (project : Project) (goal : Goal)
    (cwd : Path) :
    configured config.parameters project goal bytecode config.fork cwd = config := by
  unfold configured BuildConfig.parameters
  dsimp only [Option.getD_some]
  rw [Path.under_of_isAbsolute hin, Path.under_of_isAbsolute hout, ← hversion]

/-- What was settled about the fork on a host is settled there, and nothing is told again. -/
theorem runIn_resolveFork_again (h : (resolveFork fork host).runIn w = (.ok forked, w')) (v : World) :
    (resolveFork forked host).runIn v = (.ok forked, v) := by
  cases forked with
  | true => rfl
  | false =>
    -- The run is not forked, so that was not asked for, and the host is new enough.
    unfold resolveFork at h ⊢
    cases fork with
    | true => cases h
    | false =>
      cases hhost : host.isAtLeast (Int.ofNat requiredMajor) with
      | error e =>
        rw [hhost] at h
        cases h
      | ok new =>
        rw [hhost] at h
        cases new with
        | true => rfl
        | false => cases h

/-- **A validated configuration is a fixed point of validation.** Taken as parameters, on the same host,
it is validated to itself, for every project and goal and in every world, and nothing is told. -/
theorem validate_fixed (h : (validate parameters project host goal).runIn w = (.ok config, w'))
    (other : Project) (otherGoal : Goal) (v : World) :
    (validate config.parameters other host otherGoal).runIn v = (.ok config, v) := by
  have hsettled := settles_of_validate h
  obtain ⟨bytecode, forked, htarget, hfork, hconfig⟩ := exists_of_validate h
  have hforked : config.fork = forked := by rw [hconfig]; rfl
  have hagain : targetVersion config.parameters.target = .ok bytecode := by
    rw [show config.parameters.target = parameters.target from hsettled.target, htarget]
  have hresolved : (resolveFork config.parameters.fork host).runIn v = (.ok config.fork, v) := by
    rw [show config.parameters.fork = forked from hforked, hforked]
    exact runIn_resolveFork_again hfork v
  have hversion : config.bytecodeVersion = Int.ofNat bytecode := by rw [hconfig]; rfl
  rw [runIn_validate hagain hresolved, configured_parameters hsettled.inputDir hsettled.outputDir
    hversion]

/-- A host without a version: the fork is forced once, and kept for another project elsewhere. -/
theorem validate_fixed_forced :
    ∃ config w', (validate {} { baseDir := ⟨.here, ["app"]⟩ } {} .main).runIn
        { tree := .empty, cwd := ["work"], environment := [] } = (.ok config, w') ∧
      config.fork = true ∧
      (validate config.parameters { baseDir := ⟨.root, ["other"]⟩ } {} .test).runIn
          { tree := .empty, cwd := ["elsewhere"], environment := [] }
        = (.ok config, { tree := .empty, cwd := ["elsewhere"], environment := [] }) := by
  obtain ⟨config, w', hrun, hfork⟩ : ∃ config w',
      (validate {} { baseDir := ⟨.here, ["app"]⟩ } {} .main).runIn
        { tree := .empty, cwd := ["work"], environment := [] } = (.ok config, w') ∧
      config.fork = true := ⟨_, _, rfl, rfl⟩
  exact ⟨config, w', hrun, hfork, validate_fixed hrun _ _ _⟩

end Validation

end Downlevel
