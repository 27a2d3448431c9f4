import Downlevel.Proofs.Runner.Stages
import Downlevel.Proofs.World.Throwing
/-!
# Where the build tool writes and where Java reads

A forked run tells the build tool a directory to copy the jar into, and tells Java the jar in it. The
build tool works in the base directory of the project, and Java works where the run does. So a path
that is not absolute means one directory to the one and another to the other: both mean the same if
and only if the build directory is absolute, or the base directory is where the run works.
-/
namespace Downlevel

/-! ## Paths seen from two directories -/

namespace Path

variable {p q base cwd : Path}

/-- A relative path goes on from where it is joined. -/
theorem join_of_not_isAbsolute (h : q.isAbsolute = false) (p : Path) :
    p.join q = ⟨p.anchor, p.names ++ q.names⟩ := by
  unfold join
  rw [h, if_neg Bool.false_ne_true]

/-- A path that is not absolute leads elsewhere from any other directory. -/
theorem under_under_eq_iff (hp : p.isAbsolute = false) (hbase : base.isAbsolute = false) :
    (p.under base).under cwd = p.under cwd ↔ base.names = [] := by
  have hjoined : (p.under base).isAbsolute = false := by
    rw [under, isAbsolute_join, hbase, hp]
    rfl
  rw [under, join_of_not_isAbsolute hjoined, under, join_of_not_isAbsolute hp, under,
    join_of_not_isAbsolute hp]
  simp

end Path

/-- What a path means to a process: one that is not absolute is seen from the directory in which the
process works, which is the one of its parent if it was given none. -/
def StartedProcess.seen (process : StartedProcess) (p : Path) : Path :=
  p.under (process.directory.getD ⟨.here, []⟩)

/-- A process that was given no directory sees a path as its parent does. -/
theorem StartedProcess.under_seen {process : StartedProcess} (h : process.directory = none)
    (p cwd : Path) : (process.seen p).under cwd = p.under cwd := by
  unfold seen
  rw [h, Option.getD_none]
  cases habsolute : p.isAbsolute with
  | true => rw [Path.under_of_isAbsolute habsolute]
  | false => exact (Path.under_under_eq_iff habsolute rfl).mpr rfl

namespace Runner

variable {parameters : Parameters} {goal : Goal} {r : Runner} {w w' : World}
  {l : Forked.Launch} {outcome : Except Failure Result}

/-! ## The build directory -/

/-- What is in a directory is absolute if the directory is. -/
theorem isAbsolute_child (p : Path) : (p.child "retrolambda").isAbsolute = p.isAbsolute := by
  rw [Path.child_of_name (by decide)]
  rfl

/-- The directory of the jar is the same from the base directory as from where the run works just in
two cases. -/
theorem under_baseDir_eq_iff (r : Runner) (cwd : Path) :
    (r.acquirer.jarPath.parent.under r.project.baseDir).under cwd
        = r.acquirer.jarPath.parent.under cwd ↔
      r.project.buildDir.isAbsolute = true ∨ r.project.baseDir.names = [] := by
  have hjar : r.acquirer.jarPath.parent.isAbsolute = r.project.buildDir.isAbsolute := by
    rw [Acquirer.parent_jarPath, isAbsolute_child]
    rfl
  cases hbuild : r.project.buildDir.isAbsolute with
  | true =>
    rw [hbuild] at hjar
    rw [Path.under_of_isAbsolute hjar]
    exact iff_of_true rfl (Or.inl rfl)
  | false =>
    -- A build directory is joined to the base directory, so that one is not absolute either.
    have hbase : r.project.baseDir.isAbsolute = false := by
      rw [Project.buildDir, Path.under, Path.isAbsolute_join, Bool.or_eq_false_iff] at hbuild
      exact hbuild.1
    rw [hbuild] at hjar
    rw [Path.under_under_eq_iff hjar hbase]
    exact (or_iff_right Bool.false_ne_true).symm

/-! ## The two processes -/

/-- A run that comes to Java started the build tool of its settings before, and nothing else. -/
theorem Course.started_of_buildTool {m : BuildToolCopier}
    (h : Course parameters goal r w (some l) outcome w') (hm : r.repositoryIn = .buildTool m) :
    ∃ version text, w'.started = w.started ++
      [⟨m.command (.retrolambda version) r.acquirer.jarPath, m.projectDir, text⟩, l.process] := by
  cases h with
  | @forked config x y z registry version launch outcome hvalid hfork hload hversion hrun =>
    -- Whatever comes before the backend only records.
    have hbefore : w.Idle (chosen Forked.name goal y) :=
      ((onlyRecorded_loaded hvalid hload).trans (World.onlyRecorded_recorded _ _ _ _)).idle
    have hstarted := (hrun.started (deferred_backendOf r w config registry version)).1
    obtain ⟨text, hfetched⟩ := Acquirer.started_of_buildTool (a := r.acquirer) hm version
      (chosen Forked.name goal y)
    refine ⟨version, text, ?_⟩
    rw [(onlyRecorded_reported outcome z).idle.started, hstarted, ← hbefore.started]
    show ((r.acquirer.ensurePresent version).runIn (chosen Forked.name goal y)).2.started ++ _ = _
    rw [hfetched, List.append_assoc]
    rfl

/-- Java is told the jar of the runner, and is given no directory to work in. -/
theorem Course.told_of_launch (h : Course parameters goal r w (some l) outcome w') :
    ["-javaagent:" ++ r.acquirer.jarPath.toString, "-jar", r.acquirer.jarPath.toString]
        <:+ l.process.command ∧
      l.process.directory = none := by
  obtain @⟨bytecode, config, x, y, u, registry, version, p, java, -, -, -, -, -, -, -, -, hplan, -⟩ :=
    h.reached
  refine ⟨?_, rfl⟩
  show _ <:+ l.plan.command
  rw [hplan]
  exact (List.suffix_append _ _).trans (List.suffix_cons _ _)

/-- The build tool is told the directory of the jar. -/
theorem mem_command (m : BuildToolCopier) (version : String) (destination : Path) :
    "-DoutputDirectory=" ++ destination.parent.toString
      ∈ m.command (.retrolambda version) destination := by
  simp [BuildToolCopier.command]

/-- **Where Java reads what was fetched.** A run with the build tool of its settings that comes to Java
has started the build tool before, and no other process. The tool was told the directory of the jar
that Java is told, and leaves the jar there under its name. Whatever the working directory of the run
is, the directory is the same to both if and only if the build directory is absolute or the base
directory is the working directory. Paths are compared by their texts: two texts may still lead to one
place, through two dots or through links. -/
theorem reads_where_fetched_iff (parameters : Parameters) (goal : Goal) (r : Runner) (w : World)
    (hskip : parameters.skip = false)
    (hsource : r.settings.runner.artifactSource = .buildTool)
    (hrepository : r.repositoryIn = repositoryOf r.settings r.project) :
    ∃ launch,
      Course parameters goal r w launch ((execute parameters goal).runOn r w).1.1
        ((execute parameters goal).runOn r w).2 ∧
      ∀ l, launch = some l → ∃ version fetch,
        ((execute parameters goal).runOn r w).2.started = w.started ++ [fetch, l.process] ∧
        "-DoutputDirectory=" ++ r.acquirer.jarPath.parent.toString ∈ fetch.command ∧
        ["-javaagent:" ++ r.acquirer.jarPath.toString, "-jar", r.acquirer.jarPath.toString]
          <:+ l.process.command ∧
        r.acquirer.jarPath.parent.child ((Coordinates.retrolambda version).artifact ++ ".jar")
          = r.acquirer.jarPath ∧
        ∀ cwd, (fetch.seen r.acquirer.jarPath.parent).under cwd
            = (l.process.seen r.acquirer.jarPath.parent).under cwd ↔
          r.project.buildDir.isAbsolute = true ∨ r.project.baseDir.names = [] := by
  obtain ⟨launch, hcourse⟩ := exists_course hskip goal r w
  refine ⟨launch, hcourse, ?_⟩
  rintro l rfl
  have hm : r.repositoryIn = .buildTool
      { executable := r.settings.runner.buildTool, projectDir := some r.project.baseDir } := by
    rw [hrepository, repositoryOf, hsource]
  obtain ⟨version, text, hstarted⟩ := hcourse.started_of_buildTool hm
  obtain ⟨htold, hdirectory⟩ := hcourse.told_of_launch
  refine ⟨version, _, hstarted, mem_command _ _ _, htold, r.acquirer.child_parent_jarPath version,
    fun cwd => ?_⟩
  -- The process of Java works where the runner does.
  rw [StartedProcess.under_seen hdirectory]
  exact under_baseDir_eq_iff r cwd

/-! ## A project in another directory -/

/-- Parameters that ask for a fork, and for nothing on the classpath. -/
def forkingParameters : Parameters :=
  { classpath := some [], fork := true }

/-- A machine with a project, on which a build tool and Java can be started where there are directories. -/
def workshop : World :=
  { quietMachine with
    machine := { startFault := Process.directoryFault }
    tree := { nodes := [(["tmp"], .directory), (["p"], .directory), (["sub"], .directory)] }
    scripts := [{}, {}] }

/-- A runner of a project that fetches the jar with a build tool. -/
def fetchingRunner (baseDir : Path) : Runner where
  project := { baseDir }
  settings := ⟨⟨"tool:main", .buildTool, ⟨.root, ["m"]⟩, "mvn", some "2.5.8"⟩, ⟨none, none⟩,
    ⟨.info, "", none, false⟩⟩
  toolchains := some {}
  host := some { home := some ⟨.root, ["j"]⟩ }

/-- The directories of the machine are there by their names, seen from the root or from where it works. -/
theorem status_workshop {d : Path} {n : String} (hd : d.names = [n])
    (hfits : FileTree.pathRefusal? ⟨.root, [n]⟩ = none ∧ FileTree.pathRefusal? d = none)
    (hopen : workshop.tree.refusal? [] n = none) (hn : n ≠ "." ∧ n ≠ "..")
    (hthere : workshop.tree.find? [n] = some .directory) :
    workshop.tree.status workshop.cwd d = .ok .directory := by
  have hroot : workshop.tree.locate workshop.cwd true ⟨.root, [n]⟩ = .ok [n] :=
    FileTree.locate_in_root hfits.1 hopen hn (FileTree.ne_link_of_directory hthere)
  have hlocate : workshop.tree.locate workshop.cwd true d = .ok [n] := by
    rw [FileTree.locate_of_fits hfits.1] at hroot
    rw [FileTree.locate_of_fits hfits.2, hd]
    exact (congrArg (fun place => workshop.tree.walk true _ place [n]) (ite_self [])).trans hroot
  rw [FileTree.status, hlocate]
  dsimp only
  rw [hthere]

/-- The build tool is started in a directory that is there, and leaves the files alone. -/
theorem runIn_copy_workshop {m : BuildToolCopier} (a : Acquirer) (version : String) {d : Path}
    (hproject : m.projectDir = some d)
    (hcommand : Process.hasNull (m.command (.retrolambda version) a.jarPath) (some d) = false)
    (hd : workshop.tree.status workshop.cwd d = .ok .directory) :
    ∃ u, (m.copy (.retrolambda version) a.jarPath).runIn workshop = (.ok ⟨⟩, u) ∧
      u.machine = workshop.machine ∧ u.tree = workshop.tree ∧ u.cwd = [] ∧ u.log = workshop.log ∧
        u.temporaryFiles = 0 ∧ u.breaks = [] := by
  have hstart : Process.startFault? workshop (m.command (.retrolambda version) a.jarPath)
      m.projectDir = none := by
    rw [Process.startFault?, hproject, hcommand, if_neg Bool.false_ne_true]
    show Process.directoryFault workshop.tree workshop.cwd [] (some d) = none
    rw [Process.directoryFault, hd]
  have hran : m.ran (.retrolambda version) a.jarPath workshop
      = (.ok ⟨0, "", ""⟩, Process.after {} { Process.noted (m.command (.retrolambda version) a.jarPath)
          m.projectDir workshop with scripts := [{}] }) := by
    show (Process.run _ _).runIn workshop = _
    rw [Process.runIn_run, hstart]
    rfl
  have hcopy := m.runIn_copy_jar a version workshop
  rw [hran] at hcopy
  exact ⟨_, hcopy, rfl, rfl, rfl, rfl, rfl, rfl⟩

/-- Wherever the project is, all stages of a run there end well. -/
theorem exists_reached_workshop (baseDir : Path)
    (hd : workshop.tree.status workshop.cwd baseDir = .ok .directory)
    (hcommand : Process.hasNull (BuildToolCopier.command { projectDir := some baseDir }
      (.retrolambda "2.5.8") (fetchingRunner baseDir).acquirer.jarPath) (some baseDir) = false) :
    ∃ l, Reached forkingParameters .main (fetchingRunner baseDir) workshop l := by
  obtain ⟨u, hcopy, hmachine, htree, hcwd, hlog, hcount, hbreaks⟩ := runIn_copy_workshop
    (m := { executable := "mvn", projectDir := some baseDir }) (fetchingRunner baseDir).acquirer "2.5.8"
    rfl hcommand hd
  have htold : u.recorded Forked.logger .info "Processing classes with Retrolambda" = u := by
    rw [World.recorded, World.recordedPoints, hlog]
    rfl
  -- The machine has a place for a classpath file, and the tool changed nothing in it.
  have hplace : ClasspathFile.HasPlace u := by
    constructor
    · rw [hmachine]
      rfl
    · rw [htree]
      rfl
    · rw [htree]
      decide
    · rw [htree]
      decide
    · exact hcount
  obtain ⟨x, hwrite⟩ := runIn_write_of_hasPlace hplace hbreaks
  have hresolve := Resolution.runIn_resolve_without_home x
    ((fetchingRunner baseDir).runtimeContext workshop none {}) rfl
  have hversion : Artifact.detectVersion workshop (fetchingRunner baseDir).settings.runner.version
      = .ok "2.5.8" := rfl
  exact ⟨⟨_, workshop, x, x⟩,
    ⟨rfl, rfl, rfl, rfl, hversion, hcopy, by rw [htold]; exact hwrite, hresolve, rfl, rfl⟩⟩

/-- With an absolute base directory the tool writes where Java reads. -/
theorem reads_where_fetched_absolute :
    ∃ fetch java, ((execute forkingParameters .main).runOn
        (fetchingRunner ⟨.root, ["p"]⟩) workshop).2.started = [fetch, java] ∧
      ∀ cwd, (fetch.seen (fetchingRunner ⟨.root, ["p"]⟩).acquirer.jarPath.parent).under cwd
        = (java.seen (fetchingRunner ⟨.root, ["p"]⟩).acquirer.jarPath.parent).under cwd := by
  obtain ⟨l, hreached⟩ := exists_reached_workshop ⟨.root, ["p"]⟩
    (status_workshop rfl (by decide) (by decide) (by decide) (by decide)) (by decide +kernel)
  obtain ⟨launch, hcourse, hlaunch⟩ := reads_where_fetched_iff
    forkingParameters .main (fetchingRunner ⟨.root, ["p"]⟩) workshop rfl rfl rfl
  obtain ⟨version, fetch, hstarted, -, -, -, hseen⟩ := hlaunch l (hcourse.launch_eq hreached)
  exact ⟨fetch, l.process, hstarted, fun cwd => (hseen cwd).mpr (Or.inl rfl)⟩

/-- With a base directory below the working directory the tool is told the name of the base directory
while it works there already, and writes one directory further down than Java reads. -/
theorem reads_elsewhere_than_fetched :
    ∃ fetch java, ((execute forkingParameters .main).runOn
        (fetchingRunner ⟨.here, ["sub"]⟩) workshop).2.started = [fetch, java] ∧
      "-DoutputDirectory=sub/target/retrolambda" ∈ fetch.command ∧
      (fetch.seen (Path.ofString "sub/target/retrolambda")).under (FileTree.pathOf workshop.cwd)
        = ⟨.root, ["sub", "sub", "target", "retrolambda"]⟩ ∧
      ["-javaagent:sub/target/retrolambda/retrolambda.jar", "-jar",
        "sub/target/retrolambda/retrolambda.jar"] <:+ java.command ∧
      (java.seen (Path.ofString "sub/target/retrolambda/retrolambda.jar").parent).under
          (FileTree.pathOf workshop.cwd) = ⟨.root, ["sub", "target", "retrolambda"]⟩ := by
  have hdirectory : Path.ofString "sub/target/retrolambda"
      = ⟨.here, ["sub", "target", "retrolambda"]⟩ := by cbv
  have hfile : Path.ofString "sub/target/retrolambda/retrolambda.jar"
      = ⟨.here, ["sub", "target", "retrolambda", "retrolambda.jar"]⟩ := by cbv
  have htext : (fetchingRunner ⟨.here, ["sub"]⟩).acquirer.jarPath.toString
      = "sub/target/retrolambda/retrolambda.jar" := by cbv
  have hagent : "-javaagent:" ++ (fetchingRunner ⟨.here, ["sub"]⟩).acquirer.jarPath.toString
      = "-javaagent:sub/target/retrolambda/retrolambda.jar" := by cbv
  have houtput : "-DoutputDirectory="
      ++ (fetchingRunner ⟨.here, ["sub"]⟩).acquirer.jarPath.parent.toString
        = "-DoutputDirectory=sub/target/retrolambda" := by cbv
  obtain ⟨l, hreached⟩ := exists_reached_workshop ⟨.here, ["sub"]⟩
    (status_workshop rfl (by decide) (by decide) (by decide) (by decide)) (by decide +kernel)
  obtain ⟨launch, hcourse⟩ := exists_course (show forkingParameters.skip = false from rfl)
    .main (fetchingRunner ⟨.here, ["sub"]⟩) workshop
  -- The stage is reached, so the course has its launch.
  cases hcourse.launch_eq hreached
  obtain ⟨version, text, hstarted⟩ := hcourse.started_of_buildTool rfl
  obtain ⟨htold, hnone⟩ := hcourse.told_of_launch
  have hmem := mem_command { executable := "mvn", projectDir := some ⟨.here, ["sub"]⟩ } version
    (fetchingRunner ⟨.here, ["sub"]⟩).acquirer.jarPath
  rw [hagent, htext] at htold
  rw [houtput] at hmem
  refine ⟨_, l.process, hstarted, hmem, ?_, htold, ?_⟩
  · rw [hdirectory]
    rfl
  · rw [hfile, StartedProcess.under_seen hnone]
    rfl

end Runner

end Downlevel
