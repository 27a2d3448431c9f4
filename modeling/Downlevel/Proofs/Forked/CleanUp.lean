import Downlevel.Proofs.Forked.Properties
import Downlevel.Proofs.World.Frame
import Downlevel.Resolution
/-!
# Cleaning up after a forked run

A forked run is compared with the same run that leaves its classpath file behind. Both have the same
outcome. The process is started only while the file that its command names holds the entries. And
the run that deletes the file leaves nothing of it, unless the removal is refused, which is told
once.
-/
namespace Downlevel

/-! ## Leaving classpath files alone -/

/-- The pending files are the same, and those that could be read still hold what they held. -/
def World.Respects (w w' : World) : Prop :=
  w'.pending = w.pending ∧
    ∀ p ∈ w.pending, ∀ bytes, w.HoldsFile p bytes → w'.HoldsFile p bytes

/-- Telling something leaves the classpath files alone. -/
theorem World.OnlyRecorded.respects (w w' : World) (h : w.OnlyRecorded w') : w.Respects w' :=
  ⟨h.pending, fun _ _ _ hfile => hfile.of_onlyRecorded h⟩

/-- The resolution of the Java runtime only tells what it does, so it leaves classpath files alone.
-/
theorem Resolution.within_resolve (c : Context) (rules : List Rule) :
    (resolve c rules).Within World.OnlyRecorded := by
  have hhome : (ofExplicitHome c).Within World.OnlyRecorded := by
    unfold ofExplicitHome
    split
    · exact Action.within_pure _
    · refine Action.within_get.bind fun w => (Action.within_ofExcept _).bind fun found => ?_
      split
      · exact (within_logAs_onlyRecorded _ _ _).bind fun _ => Action.within_pure _
      · exact Action.within_pure _
  have hrule : ∀ r, (ofRule c r).Within World.OnlyRecorded := by
    intro r
    cases r with
    | explicitHome => exact hhome
    | managed version => exact Action.within_get.bind fun w => Action.within_ofExcept _
    | buildContext => exact Action.within_get.bind fun w => Action.within_ofExcept _
  -- A rule that finds something ends the chain, perhaps with a message.
  induction rules with
  | nil => exact Action.within_pure _
  | cons r rest ih =>
    refine (hrule r).bind fun found => ?_
    split
    · split
      · exact (within_logAs_onlyRecorded _ _ _).bind fun _ => Action.within_pure _
      · exact Action.within_pure _
    · exact ih

namespace Forked

variable {launch launch' : Launcher} {entries : List Text.CodePoints} {config : BuildConfig}
  {b : Backend} {w : World} {p : Path}

/-- A run that leaves its classpath file behind. -/
def runLeaving (launch : Launcher) (entries : List Text.CodePoints) (config : BuildConfig) :
    BackendAction Result := do
  match ← prepare entries with
  | none =>
    let b ← ActionOn.thing
    return .skip ("Retrolambda " ++ b.version ++ " has not been packaged yet") (some name)
  | some p => carryOut launch config p

/-! ## Before the process -/

/-- The world after the acquisition of the jar. -/
def acquired (b : Backend) (w : World) : World :=
  ((b.acquirer.ensurePresent b.version).runIn w).2

/-- The world in which the classpath file is made. -/
def readyWorld (b : Backend) (w : World) : World :=
  (acquired b w).recorded logger .info "Processing classes with Retrolambda"

/-- What keeps a run from having a classpath file: the jar is not there, no file can be made, or the
entries cannot be written. -/
def Unprepared (entries : List Text.CodePoints) (b : Backend) (w : World) : Prop :=
  ((b.acquirer.ensurePresent b.version).runIn w).1 ≠ .ok .present ∨
  (∃ e, ((ClasspathFile.make b.temporaryDirectory).runIn (readyWorld b w)).1 = .error e) ∨
  ClasspathFile.Unwritable entries (readyWorld b w)

/-- Acquiring the jar leaves the pending files as they are. -/
theorem pending_readyWorld
    (h : (b.acquirer.ensurePresent b.version).Within (Same World.pending)) :
    (readyWorld b w).pending = w.pending := by
  rw [readyWorld, World.recorded_pending]
  exact h w

/-- Nothing is prepared if the jar cannot be acquired. -/
theorem runOn_prepare_of_error (entries : List Text.CodePoints) {e : Failure}
    (h : ((b.acquirer.ensurePresent b.version).runIn w).1 = .error e) :
    (prepare entries).runOn b w = ((.error e, b), acquired b w) := by
  unfold prepare
  rw [ActionOn.runOn_bind_ok (ActionOn.runOn_thing b w), ActionOn.runOn_bind, ActionOn.runOn_lift,
    h]
  rfl

/-- Nothing is prepared if there is no such release. -/
theorem runOn_prepare_of_notPublished (entries : List Text.CodePoints)
    (h : ((b.acquirer.ensurePresent b.version).runIn w).1 = .ok .notPublished) :
    (prepare entries).runOn b w = ((.ok none, b), acquired b w) := by
  unfold prepare
  rw [ActionOn.runOn_bind_ok (ActionOn.runOn_thing b w), ActionOn.runOn_bind, ActionOn.runOn_lift,
    h]
  rfl

/-- Once the jar is there, the preparation is the writing of the classpath file. -/
theorem runOn_prepare_of_present (entries : List Text.CodePoints)
    (h : ((b.acquirer.ensurePresent b.version).runIn w).1 = .ok .present) :
    (prepare entries).runOn b w
      = ((((ClasspathFile.write entries b.temporaryDirectory).runIn
          (readyWorld b w)).1.map some, b),
        ((ClasspathFile.write entries b.temporaryDirectory).runIn (readyWorld b w)).2) := by
  have hlogged : ((logAs logger .info "Processing classes with Retrolambda").runIn
      ((b.acquirer.ensurePresent b.version).runIn w).2).2 = readyWorld b w := rfl
  unfold prepare
  rw [ActionOn.runOn_bind_ok (ActionOn.runOn_thing b w), ActionOn.runOn_bind,
    ActionOn.runOn_lift, h]
  dsimp only
  rw [ActionOn.runOn_bind_ok (ActionOn.runOn_lift _ _ _), ActionOn.runOn_bind, ActionOn.runOn_lift,
    hlogged]
  rcases (ClasspathFile.write entries b.temporaryDirectory).runIn (readyWorld b w) with ⟨_ | _, w'⟩
    <;> rfl

/-- The preparation of a run makes a classpath file that holds the entries and is pending, or it
leaves nothing behind. -/
theorem runOn_prepare (entries : List Text.CodePoints)
    (hacquire : (b.acquirer.ensurePresent b.version).Within (Same World.pending))
    (hnew : ∀ p, ((ClasspathFile.make b.temporaryDirectory).runIn (readyWorld b w)).1 = .ok p →
      p ∉ w.pending) :
    (∃ p bytes w', (prepare entries).runOn b w = ((.ok (some p), b), w') ∧
      Text.encodeUtf8 (ClasspathFile.contents entries) = .ok bytes ∧ w'.HoldsFile p bytes ∧
      p ∉ w.pending ∧ w'.pending = w.pending ++ [p]) ∨
    (∃ r w', (prepare entries).runOn b w = ((r, b), w') ∧ (∀ p, r ≠ .ok (some p)) ∧
      Unprepared entries b w ∧ w'.pending = w.pending ∧
      w'.tree.IsPartOf (acquired b w).tree) := by
  have hready := pending_readyWorld (w := w) hacquire
  have htree : (readyWorld b w).tree.IsPartOf (acquired b w).tree :=
    (World.onlyRecorded_recorded _ _ _ _).grown.isPartOf_left
  cases houtcome : ((b.acquirer.ensurePresent b.version).runIn w).1 with
  | error e =>
    right
    have hmissing : Unprepared entries b w := Or.inl (by rw [houtcome]; exact nofun)
    exact ⟨.error e, acquired b w, runOn_prepare_of_error entries houtcome, nofun, hmissing,
      hacquire w, .refl _⟩
  | ok outcome =>
    cases outcome with
    | notPublished =>
      right
      have hmissing : Unprepared entries b w := Or.inl (by rw [houtcome]; exact nofun)
      exact ⟨.ok none, acquired b w, runOn_prepare_of_notPublished entries houtcome, nofun,
        hmissing, hacquire w, .refl _⟩
    | present =>
      rw [runOn_prepare_of_present entries houtcome]
      rcases ClasspathFile.runIn_write entries b.temporaryDirectory (readyWorld b w) with
        ⟨p, bytes, n, tree, hrun, hmade, hbytes, hfile⟩ | ⟨e, n, hrun, hmade⟩ |
        ⟨e, p, n, breaks, hrun, hmade, hunwritable⟩
      · left
        -- A name that is new stays the last of the pending ones.
        have hp := hnew p hmade
        refine ⟨p, bytes, _, by rw [hrun]; rfl, hbytes, hfile, hp, ?_⟩
        rw [← hready] at hp ⊢
        exact ClasspathFile.pending_addPending_of_not_mem hp
      · right
        exact ⟨.error e, { readyWorld b w with temporaryFiles := n }, by rw [hrun]; rfl, nofun,
          Or.inr (Or.inl ⟨e, hmade⟩), hready, htree⟩
      · right
        -- The file was made and could not be filled, so it is gone again.
        have hp := hnew p hmade
        refine ⟨.error (ClasspathFile.notWritten p e), ClasspathFile.dropPending p
            (ClasspathFile.addPending p { readyWorld b w with temporaryFiles := n, breaks }),
          by rw [hrun]; rfl, nofun, Or.inr (Or.inr hunwritable), ?_, htree⟩
        rw [← hready] at hp ⊢
        exact ClasspathFile.pending_drop_add hp

/-! ## The process -/

/-- The argument that names a classpath file. -/
def fileArgument (p : Path) : String :=
  argumentOf (BuildConfig.classpathFileKey, p.toString)

/-- The planned command has the argument that names the classpath file. -/
theorem fileArgument_mem (config : BuildConfig) (java : String) (jar p : Path) :
    fileArgument p ∈ (plan config java jar p).command := by
  obtain ⟨before, after, hproperties, -⟩ := config.properties_classpath
  have hmem : (BuildConfig.classpathKey, config.classpathText) ∈ config.properties := by
    rw [hproperties]
    exact List.mem_append_right _ List.mem_cons_self
  have hargument : propertyArgument p (BuildConfig.classpathKey, config.classpathText)
      = fileArgument p := by
    rw [propertyArgument_eq, givenProperty, if_pos rfl, fileArgument]
  rw [Plan.command, plan, ← hargument]
  exact List.mem_cons_of_mem _ (List.mem_append_left _ (List.mem_map_of_mem hmem))

/-- The Java command is known, or it is worked out without touching a classpath file. -/
theorem respects_javaCommand (b : Backend) (w : World)
    (hjava : ∀ find, b.java = .deferred find → find.Within World.Respects) :
    w.Respects (javaCommand.runOn b w).2 := by
  unfold ActionOn.runOn
  simp only [javaCommand]
  cases hcommand : b.java with
  | known command => exact ⟨rfl, fun _ _ _ h => h⟩
  | deferred find =>
    have hfind := hjava find hcommand w
    dsimp only
    revert hfind
    rcases find.runIn w with ⟨e | command, w'⟩
    · exact id
    · exact id

/-- The world in which a planned process is started: its command is told. -/
def Plan.told (q : Plan) (w : World) : World :=
  w.recorded logger .debug ("Executing: " ++ " ".intercalate q.command)

/-- Telling a plan only records a message. -/
theorem Plan.onlyRecorded_told (q : Plan) (w : World) : w.OnlyRecorded (q.told w) :=
  World.onlyRecorded_recorded w logger .debug ("Executing: " ++ " ".intercalate q.command)

/-- The failure to start a planned process. -/
def Plan.notStarted (q : Plan) (e : Failure) : Failure :=
  .because (.ofProcess ("Failed to start " ++ q.executable ++ ": " ++ e.fault.text)
    { command := q.command }) e

/-- What a run makes of the end of its process. -/
def conclude (q : Plan) (start : Float) (outcome : Process.Outcome) : Action Result := do
  let stop ← Action.view (·.clock)
  logLines .info outcome.stdout
  logLines .warning outcome.stderr
  if outcome.returnCode ≠ 0 then
    throw (.ofRun (.ofProcess ("Retrolambda failed with exit code " ++ toString outcome.returnCode)
      ⟨q.command, some outcome.returnCode, outcome.stdout, outcome.stderr⟩))
  return {
    backend := some name
    command := some q.command
    returnCode := some outcome.returnCode
    stdout := outcome.stdout
    stderr := outcome.stderr
    duration := stop - start }

/-- Execution tells the plan, starts the process and looks at how it ended. -/
theorem execute_eq (launch : Launcher) (q : Plan) :
    execute launch q = (do
      logAs logger .debug ("Executing: " ++ " ".intercalate q.command)
      let start ← Action.view (·.clock)
      let outcome ← (launch q.command).orFail Fault.isOs q.notStarted
      conclude q start outcome) := rfl

/-- The launcher matters in one world alone: the one in which the command was told. -/
theorem runIn_execute (launch : Launcher) (q : Plan) (w : World) :
    (execute launch q).runIn w = match (launch q.command).runIn (q.told w) with
      | (.ok outcome, x) => (conclude q (q.told w).clock outcome).runIn x
      | (.error e, x) => (.error (if e.fault.isOs then q.notStarted e else e), x) := by
  have htold : (logAs logger .debug ("Executing: " ++ " ".intercalate q.command)).runIn w
      = (.ok ⟨⟩, q.told w) := rfl
  rw [execute_eq, Action.runIn_bind_ok htold, Action.runIn_bind_ok (Action.runIn_view _ _),
    Action.runIn_bind, Action.runIn_orFail]
  rcases (launch q.command).runIn (q.told w) with ⟨e | outcome, x⟩ <;> rfl

/-- What an execution comes to depends only on how its command is launched. -/
theorem runIn_execute_congr {q : Plan}
    (h : (launch' q.command).runIn (q.told w) = (launch q.command).runIn (q.told w)) :
    (execute launch' q).runIn w = (execute launch q).runIn w := by
  rw [runIn_execute, runIn_execute, h]

/-- A process is launched only while the file that its command names holds what it held before. -/
theorem runOn_carryOut_congr {bytes : List UInt8}
    (hjava : ∀ find, b.java = .deferred find → find.Within World.Respects)
    (hpending : p ∈ w.pending) (hfile : w.HoldsFile p bytes)
    (hsame : ∀ command u, fileArgument p ∈ command → u.tree.read u.cwd p = .ok bytes →
      (launch' command).runIn u = (launch command).runIn u) :
    (carryOut launch' config p).runOn b w = (carryOut launch config p).runOn b w := by
  -- Until the launch nothing happens but the search for Java and two messages.
  have hfile' := (respects_javaCommand b w hjava).2 p hpending bytes hfile
  unfold carryOut
  rw [ActionOn.runOn_bind, ActionOn.runOn_bind]
  revert hfile'
  rcases javaCommand.runOn b w with ⟨⟨e | java, b'⟩, w'⟩
  · exact fun _ => rfl
  · intro hfile'
    dsimp only
    rw [ActionOn.runOn_bind_ok (ActionOn.runOn_thing b' w'),
      ActionOn.runOn_bind_ok (ActionOn.runOn_thing b' w'), ActionOn.runOn_lift,
      ActionOn.runOn_lift, runIn_execute_congr]
    apply hsame
    · exact fileArgument_mem config java b'.acquirer.jarPath p
    · exact (hfile'.of_onlyRecorded (Plan.onlyRecorded_told _ _)).read

/-- After the end of the process a run only tells its lines. -/
theorem within_conclude (q : Plan) (start : Float) (outcome : Process.Outcome) :
    (conclude q start outcome).Within World.OnlyRecorded := by
  have hlines (level : Level) (text : String) :
      (logLines level text).Within World.OnlyRecorded :=
    Action.Within.forM (within_logAs_onlyRecorded logger level) _
  refine (Action.within_view _).bind fun stop => ?_
  refine (hlines _ _).bind fun _ => (hlines _ _).bind fun _ => ?_
  split
  · exact (Action.within_throw _).bind fun _ => Action.within_pure _
  · exact Action.within_pure _

/-- An execution leaves the pending files as they are, if launching does. -/
theorem within_execute (hlaunch : ∀ command, (launch command).Within (Same World.pending))
    (q : Plan) : (execute launch q).Within (Same World.pending) := by
  rw [execute_eq]
  refine (within_logAs_pending _ _ _).bind fun _ => (Action.within_view _).bind fun start => ?_
  refine ((hlaunch _).orFail _ _).bind fun outcome => ?_
  exact (within_conclude q start outcome).mono fun _ _ h => h.pending

/-- Carrying out a plan leaves the pending files as they are. -/
theorem pending_carryOut (hlaunch : ∀ command, (launch command).Within (Same World.pending))
    (hjava : ∀ find, b.java = .deferred find → find.Within World.Respects) :
    ((carryOut launch config p).runOn b w).2.pending = w.pending := by
  have hkept := (respects_javaCommand b w hjava).1
  unfold carryOut
  rw [ActionOn.runOn_bind]
  revert hkept
  rcases javaCommand.runOn b w with ⟨⟨e | java, b'⟩, w'⟩
  · exact id
  · intro hkept
    dsimp only
    rw [ActionOn.runOn_bind_ok (ActionOn.runOn_thing b' w'), ActionOn.runOn_lift]
    exact (within_execute hlaunch _ w').trans hkept

/-! ## After the process -/

/-- A deletion afterwards has no influence on the result. -/
theorem runOn_thenDelete {α : Type} (work : BackendAction α) :
    (thenDelete p work).runOn b w = ((work.runOn b w).1,
      ((ClasspathFile.delete p).runIn (work.runOn b w).2).2) := by
  unfold ActionOn.runOn
  simp only [thenDelete]
  rcases work b w with ⟨⟨r, b'⟩, w'⟩
  dsimp only
  rcases ClasspathFile.runIn_delete p w' with ⟨tree, -, hdelete, -⟩ | ⟨e, -, hdelete⟩
  · rw [hdelete]
  · rw [hdelete]

/-- With a classpath file a run is its work and the deletion of the file. -/
theorem runOn_runBy_of_file (launch : Launcher) (config : BuildConfig) {b' : Backend} {w' : World}
    (h : (prepare entries).runOn b w = ((.ok (some p), b'), w')) :
    (runBy launch entries config).runOn b w = (((runLeaving launch entries config).runOn b w).1,
        ((ClasspathFile.delete p).runIn ((runLeaving launch entries config).runOn b w).2).2) ∧
      (runLeaving launch entries config).runOn b w = (carryOut launch config p).runOn b' w' := by
  have hleaving : (runLeaving launch entries config).runOn b w
      = (carryOut launch config p).runOn b' w' := by
    unfold runLeaving
    rw [ActionOn.runOn_bind_ok h]
  refine ⟨?_, hleaving⟩
  rw [hleaving]
  unfold runBy
  rw [ActionOn.runOn_bind_ok h]
  exact runOn_thenDelete _

/-- Without a classpath file a run ends in the world that its preparation leaves, and nothing is
launched. -/
theorem runOn_runBy_of_no_file (config : BuildConfig) {r : Except Failure (Option Path)}
    {b' : Backend} {w' : World} (h : (prepare entries).runOn b w = ((r, b'), w'))
    (hr : ∀ p, r ≠ .ok (some p)) :
    ∃ outcome, ∀ launch, (runBy launch entries config).runOn b w = (outcome, w') ∧
      (runLeaving launch entries config).runOn b w = (outcome, w') := by
  unfold runBy runLeaving
  rcases r with e | _ | p
  · refine ⟨(.error e, b'), fun launch => ⟨?_, ?_⟩⟩
    · rw [ActionOn.runOn_bind_error h]
    · rw [ActionOn.runOn_bind_error h]
  · refine ⟨(.ok (.skip ("Retrolambda " ++ b'.version ++ " has not been packaged yet") (some name)),
      b'), fun launch => ⟨?_, ?_⟩⟩
    · rw [ActionOn.runOn_bind_ok h]
      rfl
    · rw [ActionOn.runOn_bind_ok h]
      rfl
  · exact absurd rfl (hr p)

/-- How a file is left behind, in a world before a run, the world of a run that leaves the file, and
the world after the run. Nothing stands at its path, and the pending files are those from before. Or
its removal is refused: that is told once, and the file stays pending. -/
def CleanedUp (p : Path) (before left after : World) : Prop :=
  (after.Vacant p ∧ after.pending = before.pending ∧ after.journal = left.journal) ∨
  ∃ e, (Files.discard p).runIn left = (.error e, left) ∧
    after = left.recorded ClasspathFile.logger .warning (ClasspathFile.refusalText p e) ∧
    after.pending = before.pending ++ [p] ∧
    (left.log.records .warning = true → after.journal
      = left.journal ++ [(Level.warning.name, ClasspathFile.refusalText p e)])

/-- Deletion ends in one of the two ways that a file is cleaned up. -/
theorem cleanedUp_delete {left : World} (hp : p ∉ w.pending) (h : left.pending = w.pending ++ [p]) :
    CleanedUp p w left ((ClasspathFile.delete p).runIn left).2 := by
  rcases ClasspathFile.runIn_delete p left with
    ⟨tree, -, hdelete, -, hgone⟩ | ⟨e, hdiscard, hdelete⟩
  · left
    rw [hdelete]
    refine ⟨hgone, ?_, rfl⟩
    have hdropped := ClasspathFile.pending_drop_add hp
    rw [ClasspathFile.dropPending, ClasspathFile.pending_addPending_of_not_mem hp, ← h] at hdropped
    exact hdropped
  · right
    rw [hdelete]
    refine ⟨e, hdiscard, rfl, ?_, World.journal_recorded (by cbv)⟩
    rw [World.recorded_pending, h]

/-- A machine with nothing but a directory for temporary files. -/
def bareMachine : World where
  tree := { nodes := [(["tmp"], .directory)] }
  cwd := []
  environment := []

/-- A backend that looks for Java when the jar is there. -/
def lateBackend : Backend where
  acquirer := ⟨.other fun _ _ => pure (), ⟨.root, ["build"]⟩⟩
  java := .deferred do return (← Resolution.resolve {} Resolution.chain).executable
  version := "2.5.7"

/-- A process that wipes the disk and cannot be started. -/
def wiping : Launcher := fun _ => do
  modify fun w => { w with tree := .empty }
  Action.fail (.os .noEntry "java" none)

end Forked

end Downlevel
