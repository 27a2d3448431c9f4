import Downlevel.CommandLine
/-!
# What options say

The options of a command that processes classes are split by hand: some describe the layout of the
project, the others are the parameters of the run. Of an option that is given again the last value
counts, but for the classpath, which is all its values. An empty path is no path.
-/
namespace Downlevel.CommandLine

variable {goal : Goal} {line : Line} {project : Project} {parameters : Parameters}

/-- A path is set by the last text that was given for an option. An empty text sets nothing. -/
def SetBy (line : Line) (s : Switch) (path : Option Path) : Prop :=
  ∀ p, path = some p ↔
    ∃ text, (line.values s).getLast? = some text ∧ text ≠ "" ∧ p = Path.ofString text

/-- The layout that a command line describes. Its base directory is absolute, and the classpath is
that of the goal. -/
structure Layout (cwd : Place) (goal : Goal) (line : Line) (project : Project) : Prop where
  baseDir : project.baseDir
    = (Path.ofString ((line.values .projectDir).getLast?.getD ".")).under (FileTree.pathOf cwd)
  buildDirectory : SetBy line .buildDir project.buildDirectory
  outputDirectory : project.outputDirectory = none
  testOutputDirectory : project.testOutputDirectory = none
  classpath : project.defaultClasspath goal = line.values .classpath
  otherClasspath : ∀ other, other ≠ goal → project.defaultClasspath other = []

/-- The parameters that a command line gives. -/
structure Options (line : Line) (parameters : Parameters) : Prop where
  skip : parameters.skip = line.has .skip
  target : parameters.target = (line.values .target).getLast?.getD "1.7"
  defaultMethods : parameters.defaultMethods = line.has .defaultMethods
  javacHacks : parameters.javacHacks = line.has .javacHacks
  quiet : parameters.quiet = line.has .quiet
  fork : parameters.fork = line.has .fork
  fixJava8Classpath : parameters.fixJava8Classpath = line.has .fixJava8Classpath
  java8Home : SetBy line .java8Home parameters.java8Home
  inputDir : SetBy line .inputDir parameters.inputDir
  outputDir : SetBy line .outputDir parameters.outputDir
  classpath : parameters.classpath = none

/-- An option with a default has the last value that was written, or the default. -/
theorem value?_of_default (line : Line) {s : Switch} {default : String}
    (h : s.default? = some default) :
    (line.value? s).getD "" = (line.values s).getLast?.getD default := by
  rw [Line.value?, h]
  cases (line.values s).getLast? <;> rfl

/-- A path is set by a line if it is the last one that was written. -/
theorem setBy_iff {s : Switch} {path : Option Path} (h : s.default? = none) :
    SetBy line s path ↔ path = pathOf? line s := by
  have hvalue : line.value? s = (line.values s).getLast? := by
    rw [Line.value?, h, Option.or_none]
  have hpath : SetBy line s (pathOf? line s) := by
    intro p
    rw [pathOf?, hvalue]
    simp only [Option.map_eq_some_iff, Option.filter_eq_some_iff, decide_eq_true_eq, and_assoc,
      eq_comm (a := p)]
  constructor
  · intro hset
    exact Option.ext fun p => (hset p).trans (hpath p).symm
  · rintro rfl
    exact hpath

/-- A command line describes one layout. -/
theorem layout_iff {cwd : Place} : Layout cwd goal line project ↔ project = projectOf cwd goal line := by
  constructor
  · intro h
    obtain ⟨baseDir, buildDirectory, outputDirectory, testOutputDirectory, compile, test⟩ := project
    obtain ⟨hbase, hbuild, houtput, htestOutput, hclasspath, hother⟩ := h
    rw [setBy_iff rfl] at hbuild
    rw [← value?_of_default line rfl] at hbase
    dsimp only at hbase hbuild houtput htestOutput
    subst hbase hbuild houtput htestOutput
    unfold projectOf
    cases goal with
    | main =>
      rw [show test = [] from hother .test nofun, show compile = _ from hclasspath]
      rfl
    | test =>
      rw [show compile = [] from hother .main nofun, show test = _ from hclasspath]
      rfl
  · rintro rfl
    refine ⟨?_, (setBy_iff rfl).mpr rfl, rfl, rfl, ?_, ?_⟩
    · rw [← value?_of_default line rfl]
      rfl
    · cases goal <;> rfl
    · intro other hne
      cases goal with
      | main =>
        cases other with
        | main => exact absurd rfl hne
        | test => rfl
      | test =>
        cases other with
        | main => rfl
        | test => exact absurd rfl hne

/-- A command line gives one set of parameters. -/
theorem options_iff : Options line parameters ↔ parameters = parametersOf line := by
  constructor
  · intro h
    obtain ⟨skip, target, defaultMethods, javacHacks, quiet, fork, fixJava8Classpath, java8Home,
      inputDir, outputDir, classpath⟩ := parameters
    obtain ⟨hskip, htarget, hdefault, hhacks, hquiet, hfork, hfix, hhome, hinput, houtput,
      hclasspath⟩ := h
    rw [setBy_iff rfl] at hhome hinput houtput
    rw [← value?_of_default line rfl] at htarget
    dsimp only at *
    subst hskip htarget hdefault hhacks hquiet hfork hfix hhome hinput houtput hclasspath
    rfl
  · rintro rfl
    have htarget : (parametersOf line).target = (line.values .target).getLast?.getD "1.7" :=
      value?_of_default line rfl
    exact ⟨rfl, htarget, rfl, rfl, rfl, rfl, rfl, (setBy_iff rfl).mpr rfl, (setBy_iff rfl).mpr rfl,
      (setBy_iff rfl).mpr rfl, rfl⟩

end Downlevel.CommandLine
