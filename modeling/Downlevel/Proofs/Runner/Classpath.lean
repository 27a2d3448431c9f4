import Downlevel.Proofs.Forked.Properties
import Downlevel.Proofs.Runner.Stages
/-!
# The classpath of a run

The classpath of a run is the one of its parameters, or else the one of its goal in the project. It
reaches whatever processes the classes as a whole and in order: an entry point gets it in a property,
and a Java process in the file that its command names.
-/
namespace Downlevel

/-- What is validated has the classpath that was given, or else the one of the goal. -/
theorem Validation.classpath_of_validate {parameters : Parameters} {project : Project} {host : Host}
    {goal : Goal} {config : BuildConfig} {w w' : World}
    (h : (validate parameters project host goal).runIn w = (.ok config, w')) :
    config.classpath = parameters.classpath.getD (project.defaultClasspath goal) := by
  obtain ⟨bytecode, forked, -, -, rfl⟩ := exists_of_validate h
  rfl

/-- A written classpath file holds the entries on lines of their own. -/
theorem ClasspathFile.holdsFile_of_write {config : BuildConfig} {directory : Option Path}
    {w w' : World} {p : Path}
    (h : (write (config.classpath.map Text.codePoints) directory).runIn w = (.ok p, w')) :
    w'.HoldsFile p (Text.utf8 config.classpathLines) := by
  rcases runIn_write (config.classpath.map Text.codePoints) directory w with
    ⟨q, bytes, n, tree, hrun, -, hbytes, hfile⟩ | ⟨e, n, hrun, -⟩ | ⟨e, q, n, run, hrun, -⟩
  · rw [contents_codePoints, Text.encodeUtf8_codePoints] at hbytes
    obtain ⟨hp, rfl⟩ := Prod.mk.inj (h.symm.trans hrun)
    cases hp
    cases hbytes
    exact hfile
  · cases (Prod.mk.inj (h.symm.trans hrun)).1
  · cases (Prod.mk.inj (h.symm.trans hrun)).1

namespace Runner

variable {parameters : Parameters} {goal : Goal} {r : Runner} {w w' : World}
  {launch : Option Forked.Launch} {outcome : Except Failure Result}

/-- The classpath of a run. -/
def classpathOf (parameters : Parameters) (r : Runner) (goal : Goal) : List String :=
  parameters.classpath.getD (r.project.defaultClasspath goal)

/-- Entries reach whatever processes the classes between two worlds. Besides the build tool of a
repository only the process of a launch is started. -/
structure Delivered (entries : List String) (repository : Repository) (w : World)
    (launch : Option Forked.Launch) (w' : World) : Prop where
  /-- At most one function is called, and it gets the entries in the one property for them. -/
  called : w'.calls = w.calls ∨ ∃ target before after,
    w'.calls = w.calls ++ [⟨target,
        before ++ (BuildConfig.classpathKey, ":".intercalate entries) :: after⟩] ∧
      ∀ property ∈ before ++ after, property.1 ≠ BuildConfig.classpathKey
  started : ∃ fetched, Fetches repository fetched ∧
    w'.started = w.started ++ fetched ++ (launch.map Forked.Launch.process).toList
  /-- When the process of a launch is started, the file that its command names holds the entries. -/
  launched : ∀ l, launch = some l →
    Forked.fileArgument l.plan.classpathFile ∈ l.process.command ∧
      (l.plan.told l.ready).tree.read (l.plan.told l.ready).cwd l.plan.classpathFile
        = .ok (Text.utf8 ("\n".intercalate entries))

/-- What starts no process has fetched nothing and launched nothing. -/
theorem exists_fetched_of_same (repository : Repository) (h : w'.started = w.started) :
    ∃ fetched, Fetches repository fetched ∧
      w'.started = w.started ++ fetched
        ++ ((none : Option Forked.Launch).map Forked.Launch.process).toList := by
  refine ⟨[], fetches_nil _, ?_⟩
  rw [h, List.append_nil]
  exact (List.append_nil _).symm

/-- Nothing has to reach a process if none is started and no function is called. -/
theorem delivered_of_same (entries : List String) (repository : Repository)
    (hstarted : w'.started = w.started) (hcalls : w'.calls = w.calls) :
    Delivered entries repository w none w' where
  called := Or.inl hcalls
  started := exists_fetched_of_same repository hstarted
  launched := fun _ hl => nomatch hl

/-- What is done before and starts or calls nothing does not count. -/
theorem Delivered.after_idle {entries : List String} {repository : Repository} {v : World}
    (hidle : w.Idle v) (h : Delivered entries repository v launch w') :
    Delivered entries repository w launch w' where
  called := by
    rw [← hidle.calls]
    exact h.called
  started := by
    rw [← hidle.started]
    exact h.started
  launched := h.launched

/-- A process is launched while the written file still holds the classpath: in between Java is
resolved, and messages are told. -/
theorem Reached.read_classpathFile {l : Forked.Launch} (h : Reached parameters goal r w l) :
    Forked.fileArgument l.plan.classpathFile ∈ l.process.command ∧
      (l.plan.told l.ready).tree.read (l.plan.told l.ready).cwd l.plan.classpathFile
        = .ok (Text.utf8 ("\n".intercalate (classpathOf parameters r goal))) := by
  obtain @⟨bytecode, config, x, y, u, registry, version, p, java, -, hvalid, -, -, -, -, hwrite,
    hresolve, hplan, -⟩ := h
  have hclasspath : config.classpath = classpathOf parameters r goal :=
    Validation.classpath_of_validate hvalid
  have hwritten := ClasspathFile.holdsFile_of_write hwrite
  have hready : l.written.OnlyRecorded l.ready :=
    (Resolution.within_resolve _ _).of_runIn hresolve
  have hfile := (hwritten.of_onlyRecorded hready).of_onlyRecorded (l.plan.onlyRecorded_told l.ready)
  rw [Forked.Launch.process, hplan]
  refine ⟨Forked.fileArgument_mem _ _ _ _, ?_⟩
  rw [← hclasspath]
  rw [hplan] at hfile
  exact hfile.read

/-- Every course hands the classpath of its configuration over. -/
theorem Course.delivered (h : Course parameters goal r w launch outcome w')
    (hcopy : ∀ copy, r.repositoryIn = .other copy →
      ∀ c destination, (copy c destination).Within World.NoCall) :
    Delivered (classpathOf parameters r goal) r.repositoryIn w launch w' := by
  have hlaunched : ∀ l, launch = some l → _ := fun l hl => (hl ▸ h).reached.read_classpathFile
  have hdiscipline := h.discipline hcopy
  unfold Discipline at hdiscipline
  split at hdiscipline
  · obtain ⟨rfl, hstarted, hcalls⟩ := hdiscipline
    exact delivered_of_same _ _ hstarted hcalls
  · rename_i config x hvalid
    split at hdiscipline
    · obtain ⟨hcalls, hstarted⟩ := hdiscipline
      exact ⟨Or.inl hcalls, hstarted, hlaunched⟩
    · obtain ⟨rfl, hstarted, hcalls⟩ := hdiscipline
      -- An embedded run that calls the entry point hands it the classpath as a property.
      rcases hcalls with hcalls | ⟨target, hcalls⟩
      · exact delivered_of_same _ _ hstarted hcalls
      · refine ⟨?_, exists_fetched_of_same _ hstarted, fun _ hl => nomatch hl⟩
        obtain ⟨before, after, hproperties, hothers⟩ := config.properties_classpath
        rw [BuildConfig.classpathText, Validation.classpath_of_validate hvalid] at hproperties
        rw [hproperties] at hcalls
        exact Or.inr ⟨target, before, after, hcalls, hothers⟩

/-- The classpath of a run reaches whatever processes the classes. A skipped run processes none. -/
theorem exists_delivered (parameters : Parameters) (goal : Goal) (r : Runner) (w : World)
    (hcopy : ∀ copy, r.repositoryIn = .other copy →
      ∀ c destination, (copy c destination).Within World.NoCall) :
    ∃ launch,
      (parameters.skip = false → Course parameters goal r w launch
        ((execute parameters goal).runOn r w).1.1 ((execute parameters goal).runOn r w).2) ∧
      Delivered (classpathOf parameters r goal) r.repositoryIn w launch
        ((execute parameters goal).runOn r w).2 := by
  cases hskip : parameters.skip with
  | false =>
    obtain ⟨launch, hcourse⟩ := exists_course hskip goal r w
    exact ⟨launch, fun _ => hcourse, hcourse.delivered hcopy⟩
  | true =>
    have hidle := w.idle_recorded logger .info "Skipping execution (skip=true)"
    have hworld : ((execute parameters goal).runOn r w).2
        = w.recorded logger .info "Skipping execution (skip=true)" := by
      unfold execute
      rw [hskip]
      rfl
    rw [hworld]
    exact ⟨none, nofun, delivered_of_same _ _ hidle.started hidle.calls⟩

end Runner

end Downlevel
