import Downlevel.Proofs.Forked.CleanUp
import Downlevel.Proofs.World.Idle
/-!
# The course of a forked run

A forked run gets the jar, writes the classpath file, works out the Java command and starts the
process. Its course says at which of these stages it ends, and in which world. A stage starts in the
world that the one before it left, and after the stage at which a run ends nothing happens but the
deletion of the classpath file, if there is one. Every run has a course, and the process is started
once in a run that comes so far, and never in another one.
-/
namespace Downlevel.Forked

/-- The start of a Java process: what was planned, and the worlds on the way to it. -/
structure Launch where
  plan : Plan
  /-- The world before the jar is got. -/
  before : World
  /-- The world with the classpath file, in which the Java command is worked out. -/
  written : World
  /-- The world in which the planned process is executed. -/
  ready : World

/-- The process of a launch as it is noted: its command is told before it is started. -/
def Launch.process (l : Launch) : StartedProcess where
  command := l.plan.command
  directory := none
  classpath := Process.classpathText (l.plan.told l.ready) l.plan.command

/-- The result of a run whose jar is not published. -/
def notPublishedResult (b : Backend) : Result :=
  .skip ("Retrolambda " ++ b.version ++ " has not been packaged yet") (some name)

/-- How a run of a configuration can go: the launch of its process, if it comes so far, its outcome,
and the world that it ends in. -/
inductive Course (config : BuildConfig) (b : Backend) (w : World) :
    Option Launch → Except Failure Result → World → Prop
  | notAcquired {e : Failure} :
      ((b.acquirer.ensurePresent b.version).runIn w).1 = .error e →
      Course config b w none (.error e) (acquired b w)
  | notPublished :
      ((b.acquirer.ensurePresent b.version).runIn w).1 = .ok .notPublished →
      Course config b w none (.ok (notPublishedResult b)) (acquired b w)
  | notWritten {e : Failure} {x : World} :
      ((b.acquirer.ensurePresent b.version).runIn w).1 = .ok .present →
      (ClasspathFile.write (config.classpath.map Text.codePoints) b.temporaryDirectory).runIn
        (readyWorld b w) = (.error e, x) →
      Course config b w none (.error e) x
  | notResolved {p : Path} {x y : World} {e : Failure} {b' : Backend} :
      ((b.acquirer.ensurePresent b.version).runIn w).1 = .ok .present →
      (ClasspathFile.write (config.classpath.map Text.codePoints) b.temporaryDirectory).runIn
        (readyWorld b w) = (.ok p, x) →
      javaCommand.runOn b x = ((.error e, b'), y) →
      Course config b w none (.error e) ((ClasspathFile.delete p).runIn y).2
  | launched {p : Path} {x y z : World} {java : String} {b' : Backend}
      {outcome : Except Failure Result} :
      ((b.acquirer.ensurePresent b.version).runIn w).1 = .ok .present →
      (ClasspathFile.write (config.classpath.map Text.codePoints) b.temporaryDirectory).runIn
        (readyWorld b w) = (.ok p, x) →
      javaCommand.runOn b x = ((.ok java, b'), y) →
      (execute (fun command => Process.run command none)
        (plan config java b.acquirer.jarPath p)).runIn y = (outcome, z) →
      Course config b w (some ⟨plan config java b.acquirer.jarPath p, w, x, y⟩) outcome
        ((ClasspathFile.delete p).runIn z).2

variable {config : BuildConfig} {b b' : Backend} {w w' : World}

/-! ## Every run has a course -/

/-- The search for the Java command does not change where the jar is. -/
theorem acquirer_javaCommand {r : Except Failure String}
    (h : javaCommand.runOn b w = ((r, b'), w')) : b'.acquirer = b.acquirer := by
  unfold ActionOn.runOn at h
  simp only [javaCommand] at h
  split at h
  · cases h
    rfl
  · split at h
    · cases h
      rfl
    · cases h
      rfl

/-- A Java command that is not known is worked out by its search. -/
theorem runOn_javaCommand {find : Action String} (hb : b.java = .deferred find) (w : World) :
    (javaCommand.runOn b w).1.1 = (find.runIn w).1 ∧
      (javaCommand.runOn b w).2 = (find.runIn w).2 := by
  unfold ActionOn.runOn
  simp only [javaCommand, hb]
  rcases find.runIn w with ⟨e | command, x⟩
  · exact ⟨rfl, rfl⟩
  · exact ⟨rfl, rfl⟩

/-- With a classpath file a run comes to the search for Java. -/
theorem course_thenDelete {p : Path} {x : World}
    (hget : ((b.acquirer.ensurePresent b.version).runIn w).1 = .ok .present)
    (hwrite : (ClasspathFile.write (config.classpath.map Text.codePoints)
      b.temporaryDirectory).runIn (readyWorld b w) = (.ok p, x)) :
    ∃ launch, Course config b w launch
      ((thenDelete p (carryOut (fun command => Process.run command none) config p)).runOn b x).1.1
      ((thenDelete p (carryOut (fun command => Process.run command none) config p)).runOn b x).2 := by
  rw [runOn_thenDelete]
  unfold carryOut
  rw [ActionOn.runOn_bind]
  rcases hjava : javaCommand.runOn b x with ⟨⟨e | java, b'⟩, y⟩
  · exact ⟨none, .notResolved hget hwrite hjava⟩
  · dsimp only
    rw [ActionOn.runOn_bind_ok (ActionOn.runOn_thing b' y), ActionOn.runOn_lift,
      acquirer_javaCommand hjava]
    exact ⟨_, .launched hget hwrite hjava rfl⟩

/-- Every run has a course. -/
theorem exists_course (config : BuildConfig) (b : Backend) (w : World) :
    ∃ launch, Course config b w launch ((run config).runOn b w).1.1 ((run config).runOn b w).2 := by
  unfold run runBy
  rw [ActionOn.runOn_bind]
  cases hget : ((b.acquirer.ensurePresent b.version).runIn w).1 with
  | error e =>
    rw [runOn_prepare_of_error _ hget]
    exact ⟨none, .notAcquired hget⟩
  | ok acquisition =>
    cases acquisition with
    | notPublished =>
      rw [runOn_prepare_of_notPublished _ hget]
      exact ⟨none, .notPublished hget⟩
    | present =>
      rw [runOn_prepare_of_present _ hget]
      rcases hwrite : (ClasspathFile.write (config.classpath.map Text.codePoints)
        b.temporaryDirectory).runIn (readyWorld b w) with ⟨e | p, x⟩
      · exact ⟨none, .notWritten hget hwrite⟩
      · exact course_thenDelete hget hwrite

/-! ## What is started -/

/-- Telling that the jar is ready starts nothing. -/
theorem idle_readyWorld (b : Backend) (w : World) : (acquired b w).Idle (readyWorld b w) :=
  (acquired b w).idle_recorded _ _ _

/-- A planned process is started once, and its lines are only told. -/
theorem started_execute (q : Plan) (w : World) :
    ((execute (fun command => Process.run command none) q).runIn w).2.started
        = w.started ++ [⟨q.command, none, Process.classpathText (q.told w) q.command⟩] ∧
      ((execute (fun command => Process.run command none) q).runIn w).2.calls = w.calls := by
  have htold : w.Idle (q.told w) := w.idle_recorded _ _ _
  obtain ⟨hstarted, hcalls⟩ := Process.started_run q.command none (q.told w)
  rw [runIn_execute, ← htold.started, ← htold.calls, ← hstarted, ← hcalls]
  rcases (Process.run q.command none).runIn (q.told w) with ⟨e | outcome, x⟩
  · exact ⟨rfl, rfl⟩
  · have hidle := (within_conclude q (q.told w).clock outcome x).idle
    exact ⟨hidle.started, hidle.calls⟩

/-- The search for the Java command starts nothing, if the search that it was given does not. -/
theorem idle_javaCommand (hjava : ∀ find, b.java = .deferred find → find.Within World.Idle)
    (w : World) : w.Idle (javaCommand.runOn b w).2 := by
  unfold ActionOn.runOn
  simp only [javaCommand]
  cases hcommand : b.java with
  | known command => rfl
  | deferred find =>
    have hfind := hjava find hcommand w
    dsimp only
    revert hfind
    rcases find.runIn w with ⟨e | command, w'⟩
    · exact id
    · exact id

/-- Besides what the acquisition of the jar starts, a run starts the process of its launch, and
nothing in a course without one. -/
theorem Course.started {launch : Option Launch} {outcome : Except Failure Result}
    (h : Course config b w launch outcome w')
    (hjava : ∀ find, b.java = .deferred find → find.Within World.Idle) :
    w'.started = (acquired b w).started ++ (launch.map Launch.process).toList ∧
      w'.calls = (acquired b w).calls := by
  -- Up to the search for Java nothing is started, and the deletion starts nothing either.
  have hwritten : ∀ {r x}, (ClasspathFile.write (config.classpath.map Text.codePoints)
      b.temporaryDirectory).runIn (readyWorld b w) = (r, x) → (acquired b w).Idle x := by
    intro r x hwrite
    have hidle : (readyWorld b w).Idle x :=
      (ClasspathFile.within_write_idle _ _).of_runIn hwrite
    exact IsTrans.trans _ _ _ (idle_readyWorld b w) hidle
  have hsearched : ∀ {r b' x y}, (acquired b w).Idle x → javaCommand.runOn b x = ((r, b'), y) →
      (acquired b w).Idle y := by
    intro r b' x y hx hsearch
    have hidle := idle_javaCommand hjava x
    rw [hsearch] at hidle
    exact IsTrans.trans _ _ _ hx hidle
  cases h with
  | notAcquired _ => exact ⟨(List.append_nil _).symm, rfl⟩
  | notPublished _ => exact ⟨(List.append_nil _).symm, rfl⟩
  | notWritten _ hwrite =>
    have hidle := hwritten hwrite
    exact ⟨hidle.started.trans (List.append_nil _).symm, hidle.calls⟩
  | @notResolved p x y e b' _ hwrite hsearch =>
    have hidle : (acquired b w).Idle _ := IsTrans.trans _ _ _
      (hsearched (hwritten hwrite) hsearch) (ClasspathFile.within_delete_idle p y)
    exact ⟨hidle.started.trans (List.append_nil _).symm, hidle.calls⟩
  | @launched p x y z java b' _ _ hwrite hsearch hrun =>
    have hidle := hsearched (hwritten hwrite) hsearch
    obtain ⟨hstarted, hcalls⟩ := started_execute (plan config java b.acquirer.jarPath p) y
    rw [hrun] at hstarted hcalls
    have hdeleted := ClasspathFile.within_delete_idle p z
    refine ⟨?_, hdeleted.calls.trans (hcalls.trans hidle.calls)⟩
    rw [hdeleted.started, hstarted, hidle.started]
    rfl

/-! ## What is returned -/

/-- The result of a process names its backend and its command. -/
theorem conclude_eq_ok {q : Plan} {start : Float} {end_ : Process.Outcome} {result : Result}
    (h : (conclude q start end_).runIn w = (.ok result, w')) :
    result.success = true ∧ result.skipped = false ∧ result.backend = some name ∧
      result.command = some q.command ∧ result.returnCode = some 0 := by
  unfold conclude at h
  obtain ⟨stop, u, -, hlines⟩ := Action.runIn_bind_eq_ok h
  obtain ⟨_, v, -, hwarnings⟩ := Action.runIn_bind_eq_ok hlines
  obtain ⟨_, x, -, hcode⟩ := Action.runIn_bind_eq_ok hwarnings
  split at hcode
  · cases hcode
  · rename_i hzero
    rw [ne_eq, Decidable.not_not] at hzero
    cases hcode
    exact ⟨rfl, rfl, rfl, rfl, congrArg some hzero⟩

/-- A process that ends well gives a successful result with its command and the return code zero. -/
theorem execute_eq_ok {launch : Launcher} {q : Plan} {result : Result}
    (h : (execute launch q).runIn w = (.ok result, w')) :
    result.success = true ∧ result.skipped = false ∧ result.backend = some name ∧
      result.command = some q.command ∧ result.returnCode = some 0 := by
  rw [execute_eq] at h
  obtain ⟨_, _, -, hstart⟩ := Action.runIn_bind_eq_ok h
  obtain ⟨start, _, -, hlaunch⟩ := Action.runIn_bind_eq_ok hstart
  obtain ⟨end_, _, -, hconclude⟩ := Action.runIn_bind_eq_ok hlaunch
  exact conclude_eq_ok hconclude

/-- What a run returns. With a launch it is the success of its process, and without one it is the
result of a jar that is not published, of which the acquisition is the last that happens. -/
theorem Course.returned {launch : Option Launch} {result : Result}
    (h : Course config b w launch (.ok result) w') :
    (∃ l, launch = some l ∧ result.success = true ∧ result.skipped = false ∧
      result.backend = some name ∧ result.command = some l.plan.command ∧
      result.returnCode = some 0) ∨
    (launch = none ∧ ((b.acquirer.ensurePresent b.version).runIn w).1 = .ok .notPublished ∧
      result = notPublishedResult b ∧ w' = acquired b w) := by
  cases h with
  | notPublished hget => exact Or.inr ⟨rfl, hget, rfl, rfl⟩
  | launched _ _ _ hrun => exact Or.inl ⟨_, rfl, execute_eq_ok hrun⟩

end Downlevel.Forked
