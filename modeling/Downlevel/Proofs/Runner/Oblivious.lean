import Downlevel.Proofs.Forked.JavaCommand
import Downlevel.Proofs.Forked.Properties
import Downlevel.Proofs.Runner.Preview
import Downlevel.Proofs.World.Oblivious
/-!
# Runs that do not look back

What a runner does is oblivious: toolchains are loaded, Java is resolved and classes are processed in
the same way whatever was told before. Of what a runner was given, a repository that copies by means
of its own is the only thing that could look at the log.
-/
namespace Downlevel

open Downlevel.Action

/-! ## Toolchains and the Java runtime -/

namespace Registry

theorem oblivious_readElements (source : String) (es : List Xml.Element) :
    (readElements source es).Oblivious := by
  induction es with
  | nil => exact oblivious_pure _
  | cons e es ih =>
    unfold readElements
    refine Oblivious.ite ih ?_
    split
    · exact ih.bind fun _ => oblivious_pure _
    · exact (oblivious_logAs _ _ _).bind fun _ => ih

theorem oblivious_readRoot (source : String) (root : Xml.Element) :
    (readRoot source root).Oblivious := by
  refine (oblivious_readElements _ _).bind fun toolchains => ?_
  exact (oblivious_logAs _ _ _).bind fun _ => oblivious_pure _

theorem oblivious_readDocument (p : Path) : (readDocument p).Oblivious := by
  refine (Files.oblivious_read p).bind fun bytes => ?_
  exact (oblivious_view fun _ _ _ => rfl).bind fun codecs => oblivious_ofExcept _

theorem oblivious_load (p : Option Path) : (load p).Oblivious := by
  cases p with
  | none => exact (oblivious_logAs _ _ _).bind fun _ => oblivious_pure _
  | some p =>
    refine (Files.oblivious_holds p).bind fun found => Oblivious.ite ?_ ?_
    · refine ((oblivious_readDocument p).orFail _ _).bind fun root => ?_
      exact (oblivious_readRoot _ _).bind fun _ => oblivious_pure _
    · exact (oblivious_logAs _ _ _).bind fun _ => oblivious_pure _

theorem oblivious_select (r : Registry) (type : String) (requirements : List (String × String)) :
    (r.select type requirements).Oblivious := by
  refine (oblivious_ofExcept _).bind fun found => ?_
  split
  · exact (oblivious_logAs _ _ _).bind fun _ => oblivious_pure _
  · exact oblivious_pure _

end Registry

/-- The rules look at the files alone. -/
theorem Resolution.ofToolchainRule_preceded (c : Context) (rule : Rule) (w : World)
    (records : List (String × String)) (text : String) :
    ofToolchainRule (w.preceded records text) c rule = ofToolchainRule w c rule := by
  cases rule with
  | explicitHome => rfl
  | managed version => rfl
  | buildContext => rfl

theorem Resolution.oblivious_resolve (c : Context) (rules : List Rule) :
    (resolve c rules).Oblivious := by
  -- Whether any toolchain would be found is read off the file tree.
  have hany : ∀ records text w rs, anyToolchain (World.preceded w records text) c rs
      = anyToolchain w c rs := by
    intro records text w rs
    induction rs with
    | nil => rfl
    | cons r rs ih => rw [anyToolchain, anyToolchain, ofToolchainRule_preceded, ih]
  have hhome : (ofExplicitHome c).Oblivious := by
    unfold ofExplicitHome
    split
    · exact oblivious_pure _
    · refine oblivious_get_bind_of_congr (fun records text w => by rw [hany]) fun w => ?_
      refine (oblivious_ofExcept _).bind fun found => ?_
      split
      · exact (oblivious_logAs _ _ _).bind fun _ => oblivious_pure _
      · exact oblivious_pure _
  have hrule : ∀ r, (ofRule c r).Oblivious := by
    intro r
    cases r with
    | explicitHome => exact hhome
    | managed version =>
      exact oblivious_get_bind_of_congr (fun _ _ _ => rfl) fun _ => oblivious_ofExcept _
    | buildContext =>
      exact oblivious_get_bind_of_congr (fun _ _ _ => rfl) fun _ => oblivious_ofExcept _
  induction rules with
  | nil => exact oblivious_pure _
  | cons r rest ih =>
    refine (hrule r).bind fun found => ?_
    split
    · split
      · exact (oblivious_logAs _ _ _).bind fun _ => oblivious_pure _
      · exact oblivious_pure _
    · exact ih

/-- Validation is oblivious of what was told. -/
theorem Validation.oblivious_validate (parameters : Parameters) (project : Project) (host : Host)
    (goal : Goal) : (validate parameters project host goal).Oblivious := by
  have hfork : (resolveFork parameters.fork host).Oblivious := by
    refine Oblivious.ite (oblivious_pure _) ((oblivious_ofExcept _).bind fun new => ?_)
    exact (oblivious_pure _).ite ((oblivious_logAs _ _ _).bind fun _ => oblivious_pure _)
  refine (oblivious_ofExcept _).bind fun _ => hfork.bind fun _ => ?_
  exact (oblivious_view fun _ _ _ => rfl).bind fun _ => oblivious_pure _

/-! ## Acquisition -/

/-- A repository copies whatever was told before. -/
def Repository.Oblivious (repository : Repository) : Prop :=
  ∀ copy, repository = .other copy → ∀ c destination, (copy c destination).Oblivious

theorem Repository.oblivious_copyFrom (root : Path) (c : Coordinates) (destination : Path) :
    (copyFrom root c destination).Oblivious := by
  refine (Files.oblivious_isFile _).bind fun found => Oblivious.ite ?_ (oblivious_throw _)
  refine Action.Oblivious.orFail ?_ _ _
  exact (Files.oblivious_makeDirectories _ _).bind fun _ => Files.oblivious_copy _ _

/-- The build tool copies alike, whatever was told before. -/
theorem BuildToolCopier.oblivious_copy (m : BuildToolCopier) (c : Coordinates)
    (destination : Path) : (m.copy c destination).Oblivious := by
  have hrenamed : (if (destination.parent.child (c.artifact ++ ".jar")) ≠ destination then
      Files.rename (destination.parent.child (c.artifact ++ ".jar")) destination else pure () :
      Action Unit).Oblivious :=
    (Files.oblivious_rename _ _).ite (oblivious_pure _)
  rw [copy_eq]
  refine (oblivious_logAs _ _ _).bind fun _ => ?_
  refine ((Process.oblivious_run _ _).orFail _ _).bind fun outcome => ?_
  exact Action.Oblivious.ite ((oblivious_throw _).bind fun _ => hrenamed) hrenamed

/-- A repository copies alike, if a copying by other means does. -/
theorem Repository.Oblivious.copy {repository : Repository} (h : repository.Oblivious)
    (c : Coordinates) (destination : Path) : (repository.copy c destination).Oblivious := by
  cases repository with
  | localStore root => exact oblivious_copyFrom root c destination
  | buildTool m => exact m.oblivious_copy c destination
  | other copy => exact h copy rfl c destination

/-- An acquisition is oblivious of what was told. -/
theorem Acquirer.oblivious_ensurePresent {a : Acquirer} (h : a.repository.Oblivious)
    (version : String) : (a.ensurePresent version).Oblivious := by
  refine (oblivious_logAs _ _ _).bind fun _ => Action.Oblivious.tryCatch ?_ fun e => ?_
  · exact (h.copy _ _).bind fun _ => oblivious_pure _
  · split
    · exact (oblivious_logAs _ _ _).bind fun _ => oblivious_pure _
    · exact oblivious_throw e

/-! ## Entry points -/

/-- An entry point is found alike, whatever was told before. -/
theorem Embedded.entry_preceded (point : EntryPoint) (w : World)
    (records : List (String × String)) (text : String) :
    point.entry (w.preceded records text) = point.entry w := by
  cases point with
  | named spec =>
    exact load_congr (show (w.preceded records text).modules = w.modules from rfl) spec
  | loaded entry => rfl

/-- The embedded run is oblivious of what was told. -/
theorem Embedded.oblivious_run (point : EntryPoint) (config : BuildConfig) :
    (run point config).Oblivious := by
  have hcall : ∀ entry, (call entry config.properties).Oblivious := by
    intro entry
    refine (oblivious_modify fun _ _ _ => rfl).bind fun _ => ?_
    split
    · exact oblivious_throw _
    · exact oblivious_pure _
  refine (oblivious_logAs _ _ _).bind fun _ => (oblivious_view fun _ _ _ => rfl).bind fun start => ?_
  refine Action.Oblivious.bind (Action.Oblivious.orFail ?_ _ _) fun _ =>
    (oblivious_view fun _ _ _ => rfl).bind fun stop => oblivious_pure _
  refine oblivious_get_bind_of_congr (fun records text w => by rw [entry_preceded]) fun w => ?_
  exact (oblivious_ofExcept _).bind hcall

/-! ## Forked runs -/

namespace Forked

variable {config : BuildConfig} {b : Backend} {p : Path}

/-- An execution is oblivious, if launching is. -/
theorem oblivious_execute {launch : Launcher} (hlaunch : ∀ command, (launch command).Oblivious)
    (q : Plan) : (execute launch q).Oblivious := by
  have hlines (level : Level) (text : String) : (logLines level text).Oblivious :=
    Action.Oblivious.forM (oblivious_logAs logger level) _
  rw [execute_eq]
  refine (oblivious_logAs _ _ _).bind fun _ => (oblivious_view fun _ _ _ => rfl).bind fun start => ?_
  refine ((hlaunch _).orFail _ _).bind fun outcome => ?_
  refine (oblivious_view fun _ _ _ => rfl).bind fun stop => ?_
  refine (hlines _ _).bind fun _ => (hlines _ _).bind fun _ => ?_
  split
  · exact (oblivious_throw _).bind fun _ => oblivious_pure _
  · exact oblivious_pure _

/-- The preparation of a run for a backend. -/
def preparation (entries : List Text.CodePoints) (b : Backend) : Action (Option Path) := do
  match ← b.acquirer.ensurePresent b.version with
  | .notPublished => return none
  | .present =>
    logAs logger .info "Processing classes with Retrolambda"
    return some (← ClasspathFile.write entries b.temporaryDirectory)

/-- A preparation leaves its backend as it is. -/
theorem runOn_prepare_eq (entries : List Text.CodePoints) (b : Backend) (w : World) :
    (prepare entries).runOn b w
      = ((((preparation entries b).runIn w).1, b), ((preparation entries b).runIn w).2) := by
  unfold prepare preparation
  rw [ActionOn.runOn_bind_ok (ActionOn.runOn_thing b w), ActionOn.runOn_bind, ActionOn.runOn_lift,
    Action.runIn_bind]
  rcases (b.acquirer.ensurePresent b.version).runIn w with ⟨e | acquisition, x⟩
  · rfl
  · cases acquisition with
    | notPublished => rfl
    | present =>
      dsimp only
      rw [ActionOn.runOn_bind_ok (ActionOn.runOn_lift _ _ _), ActionOn.runOn_bind,
        ActionOn.runOn_lift, Action.runIn_bind_ok (Action.runIn_logAs _ _ _ _), Action.runIn_bind,
        Action.runIn_logAs]
      rcases (ClasspathFile.write entries b.temporaryDirectory).runIn
        (x.recorded logger .info "Processing classes with Retrolambda") with ⟨e | p, y⟩ <;> rfl

/-- A preparation is oblivious, if the repository is. -/
theorem oblivious_preparation (entries : List Text.CodePoints)
    (h : b.acquirer.repository.Oblivious) : (preparation entries b).Oblivious := by
  refine (Acquirer.oblivious_ensurePresent h _).bind fun acquisition => ?_
  cases acquisition with
  | notPublished => exact oblivious_pure _
  | present =>
    refine (oblivious_logAs _ _ _).bind fun _ => ?_
    exact (ClasspathFile.oblivious_write _ _).bind fun _ => oblivious_pure _

/-- The search for Java goes the same way if its function does. -/
theorem runOn_javaCommand_preceded (h : ∀ find, b.java = .deferred find → find.Oblivious)
    (w : World) (records : List (String × String)) (text : String) :
    javaCommand.runOn b (w.preceded records text)
      = ((javaCommand.runOn b w).1, (javaCommand.runOn b w).2.preceded records text) := by
  cases hjava : b.java with
  | known command => rw [runOn_javaCommand_of_known hjava, runOn_javaCommand_of_known hjava]
  | deferred find =>
    rw [runOn_javaCommand_of_deferred hjava, runOn_javaCommand_of_deferred hjava, h find hjava]
    rcases find.runIn w with ⟨e | command, x⟩ <;> rfl

/-- A plan is carried out alike, whatever was told before. -/
theorem runOn_carryOut_preceded {launch : Launcher} (hlaunch : ∀ command, (launch command).Oblivious)
    (h : ∀ find, b.java = .deferred find → find.Oblivious) (config : BuildConfig) (p : Path)
    (w : World) (records : List (String × String)) (text : String) :
    (carryOut launch config p).runOn b (w.preceded records text)
      = (((carryOut launch config p).runOn b w).1,
        ((carryOut launch config p).runOn b w).2.preceded records text) := by
  rw [runOn_carryOut, runOn_carryOut, runOn_javaCommand_preceded h]
  rcases javaCommand.runOn b w with ⟨⟨e | java, b'⟩, x⟩
  · rfl
  · dsimp only
    rw [oblivious_execute hlaunch]

/-- A forked run goes the same way if the acquisition of its jar and the search for Java do. -/
theorem runOn_run_preceded (hcopy : b.acquirer.repository.Oblivious)
    (hjava : ∀ find, b.java = .deferred find → find.Oblivious) (config : BuildConfig) (w : World)
    (records : List (String × String)) (text : String) :
    (run config).runOn b (w.preceded records text)
      = (((run config).runOn b w).1, ((run config).runOn b w).2.preceded records text) := by
  unfold run runBy
  rw [ActionOn.runOn_bind, ActionOn.runOn_bind, runOn_prepare_eq, runOn_prepare_eq,
    oblivious_preparation _ hcopy]
  rcases (preparation (config.classpath.map Text.codePoints) b).runIn w with ⟨e | _ | p, x⟩
  · rfl
  · rfl
  · dsimp only
    rw [runOn_thenDelete, runOn_thenDelete,
      runOn_carryOut_preceded (fun command => Process.oblivious_run command none) hjava,
      ClasspathFile.oblivious_delete]

end Forked

/-! ## Runners -/

namespace Runner

variable {r : Runner} {w : World} {records : List (String × String)} {text : String}

theorem hostIn_preceded (r : Runner) (w : World) (records : List (String × String))
    (text : String) : r.hostIn (w.preceded records text) = r.hostIn w := rfl

theorem oblivious_loading (r : Runner) : r.loading.Oblivious := by
  unfold loading
  split
  · exact oblivious_pure _
  · refine (Registry.oblivious_load _).bind fun registry => ?_
    split
    · exact (Registry.oblivious_select _ _ _).bind fun _ => oblivious_pure _
    · exact oblivious_pure _

/-- An answer about the Java runtime has nothing to do with what was told before. -/
theorem runOn_resolveJava_preceded (parameters : Parameters) (r : Runner) (w : World)
    (records : List (String × String)) (text : String) :
    (resolveJava parameters).runOn r (w.preceded records text)
      = (((resolveJava parameters).runOn r w).1,
        ((resolveJava parameters).runOn r w).2.preceded records text) := by
  rw [runOn_resolveJava, runOn_resolveJava, oblivious_loading]
  rcases r.loading.runIn w with ⟨e | registry, x⟩
  · rfl
  · dsimp only
    have hcontext : r.runtimeContext (x.preceded records text) parameters.java8Home registry
        = r.runtimeContext x parameters.java8Home registry := rfl
    rw [hcontext, hostIn_preceded, Resolution.oblivious_resolve]

/-- A run is finished alike, whatever was told before. -/
theorem runOn_finish_preceded {c : Carrier} {config : BuildConfig}
    (h : (c.run config).Oblivious) (goal : Goal) (r : Runner) (w : World)
    (records : List (String × String)) (text : String) :
    (finish c config goal).runOn r (w.preceded records text)
      = (((finish c config goal).runOn r w).1,
        ((finish c config goal).runOn r w).2.preceded records text) := by
  have hchosen : chosen c.name goal (w.preceded records text)
      = (chosen c.name goal w).preceded records text := World.recorded_preceded _ _ _ _ _ _
  rw [runOn_finish, runOn_finish, hchosen, h]
  rcases (c.run config).runIn (chosen c.name goal w) with ⟨e | result, x⟩
  · rfl
  · exact Prod.ext rfl (World.recorded_preceded _ _ _ _ _ _)

/-- The backend of a forked run goes the same way if the repository of the runner does. -/
theorem oblivious_run_forked (hr : r.repositoryIn.Oblivious) (w : World) (config : BuildConfig)
    (registry : Registry) (version : String) :
    ((Carrier.forked (r.backendOf w config registry version)).run config).Oblivious := by
  have hjava : ∀ find, (r.backendOf w config registry version).java = .deferred find →
      find.Oblivious := by
    rintro find ⟨⟩
    exact (Resolution.oblivious_resolve _ _).bind fun _ => oblivious_pure _
  intro records text x
  rw [runIn_run_forked, runIn_run_forked, Forked.runOn_run_preceded hr hjava]

/-- A run goes the same way whatever was told before. -/
theorem runOn_execute_preceded (hr : r.repositoryIn.Oblivious) (parameters : Parameters)
    (goal : Goal) (w : World) (records : List (String × String)) (text : String) :
    (execute parameters goal).runOn r (w.preceded records text)
      = (((execute parameters goal).runOn r w).1,
        ((execute parameters goal).runOn r w).2.preceded records text) := by
  cases hskip : parameters.skip with
  | true =>
    have hrecorded := w.recorded_preceded logger .info "Skipping execution (skip=true)" records text
    unfold execute
    rw [hskip, if_pos rfl]
    exact Prod.ext rfl hrecorded
  | false =>
    rw [runOn_execute hskip, runOn_execute hskip, hostIn_preceded, Validation.oblivious_validate]
    rcases (Validation.validate parameters r.project (r.hostIn w) goal).runIn w with
      ⟨e | config, x⟩
    · rfl
    · dsimp only
      -- Both runs validate alike, so they fork alike.
      cases hfork : config.fork with
      | false =>
        rw [ActionOn.runOn_bind_ok (runOn_carrier_embedded hfork),
          ActionOn.runOn_bind_ok (runOn_carrier_embedded hfork)]
        exact runOn_finish_preceded (c := .embedded (.named r.settings.runner.entryPoint))
          (Embedded.oblivious_run _ config) goal _ x records text
      | true =>
        rw [ActionOn.runOn_bind, ActionOn.runOn_bind, runOn_carrier_forked hfork,
          runOn_carrier_forked hfork, oblivious_loading]
        rcases (Runner.loading { r with host := some (r.hostIn w) }).runIn x with ⟨e | registry, y⟩
        · rfl
        · dsimp only
          have hversion : Artifact.detectVersion (y.preceded records text) r.settings.runner.version
              = Artifact.detectVersion y r.settings.runner.version := rfl
          rw [hversion]
          cases Artifact.detectVersion y r.settings.runner.version with
          | error e => rfl
          | ok version =>
            refine runOn_finish_preceded (c := .forked (backendOf { r with host := some (r.hostIn w) }
              y config registry version)) ?_ goal _ y records text
            exact oblivious_run_forked (r := { r with host := some (r.hostIn w) }) hr y config
              registry version

end Runner

end Downlevel
