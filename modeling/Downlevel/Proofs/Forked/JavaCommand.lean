import Mathlib.Data.List.Induction
import Downlevel.Proofs.Forked.Course
/-!
# Java asked for late and once

A backend may be given a function that is asked for the Java command. It is asked when the jar is there
and the classpath file is written, and asked again until it answers. Its first answer is kept: from
then on the function has no influence on any run, and every process is started with that answer. If
the function fails, the run fails in the same way, after the classpath file is deleted.

How often a function is asked is said of the worlds: a run in which it is asked starts it in one world
and goes on from the one that it leaves, whatever the function does to it.
-/
namespace Downlevel

/-! ## After a deletion -/

/-- Neither a file nor a link stands at a path. -/
def World.Cleared (w : World) (p : Path) : Prop :=
  w.tree.nodeAt w.cwd p = none ∨ w.tree.nodeAt w.cwd p = some .directory

/-- What cannot be removed is not there, or is a directory. -/
theorem FileTree.nodeAt_of_remove_error {t : FileTree} {cwd : Place} {p : Path} {errno : Errno}
    (h : t.remove cwd p = .error errno) :
    t.nodeAt cwd p = none ∨ t.nodeAt cwd p = some .directory := by
  unfold remove at h
  unfold nodeAt
  split at h
  · rename_i hlocate
    rw [hlocate]
    exact Or.inl rfl
  · rename_i place hplace
    rw [hplace]
    split at h
    · rename_i hnode
      exact Or.inl hnode
    · rename_i hnode
      exact Or.inr hnode
    · cases h

/-- What is cleared stays so while only messages are recorded. -/
theorem World.Cleared.of_onlyRecorded {w w' : World} {p : Path} (h : w.Cleared p)
    (hw : w.OnlyRecorded w') : w'.Cleared p := by
  unfold Cleared at h ⊢
  rw [hw.cwd]
  rcases h with hnone | hdirectory
  · exact Or.inl (hw.grown.nodeAt_eq_none_iff.mpr hnone)
  · obtain ⟨place, n, -, hplace, -, hnode, houtline⟩ :=
      FileTree.exists_nodeAt_of_isPartOf hw.grown.isPartOf hdirectory
    right
    rw [FileTree.nodeAt_of_locate hplace, hnode, Node.eq_directory_of_outline houtline rfl]

/-- A refused removal was the one of a directory. -/
theorem ClasspathFile.cleared_delete (p : Path) (w : World) :
    ((delete p).runIn w).2.Cleared p := by
  rcases runIn_delete p w with ⟨tree, -, hdelete, -, hgone⟩ | ⟨e, hdiscard, hdelete⟩
  · rw [hdelete]
    exact Or.inl hgone
  · rw [hdelete]
    have hstood : w.Cleared p := by
      rcases Files.runIn_discard p w with ⟨tree, hrun, -⟩ | ⟨errno, -, hremove, -⟩
      · cases hdiscard.symm.trans hrun
      · exact FileTree.nodeAt_of_remove_error hremove
    exact hstood.of_onlyRecorded (World.onlyRecorded_recorded _ _ _ _)

namespace Forked

variable {config : BuildConfig} {b : Backend} {w x : World} {p : Path}

/-! ## One run -/

/-- The jar is there, and the classpath file is written: what is left is the world in which the Java
command is needed. -/
structure Ready (config : BuildConfig) (b : Backend) (w : World) (p : Path) (x : World) :
    Prop where
  present : ((b.acquirer.ensurePresent b.version).runIn w).1 = .ok .present
  written : (ClasspathFile.write (config.classpath.map Text.codePoints)
    b.temporaryDirectory).runIn (readyWorld b w) = (.ok p, x)

/-- The launcher of processes of the world. -/
def worldLauncher : Launcher := fun command => Process.run command none

/-- A run that is ready is its work, and the deletion of the classpath file. -/
theorem runOn_run_of_ready (h : Ready config b w p x) :
    (run config).runOn b w = (((carryOut worldLauncher config p).runOn b x).1,
      ((ClasspathFile.delete p).runIn ((carryOut worldLauncher config p).runOn b x).2).2) := by
  have hprepare : (prepare (config.classpath.map Text.codePoints)).runOn b w
      = ((.ok (some p), b), x) := by
    rw [runOn_prepare_of_present _ h.present, h.written]
    rfl
  obtain ⟨hrun, hleaving⟩ := runOn_runBy_of_file worldLauncher config hprepare
  rw [hleaving] at hrun
  exact hrun

/-- A run that does not get ready is the same with every Java command, and starts no process. -/
theorem runOn_run_of_not_ready (h : ∀ p x, ¬ Ready config b w p x) :
    ∃ outcome w', ∀ java,
      (run config).runOn { b with java } w = ((outcome, { b with java }), w') ∧
      Course config { b with java } w none outcome w' := by
  -- Each of the stages before the search for Java may end the run.
  unfold run runBy
  cases hget : ((b.acquirer.ensurePresent b.version).runIn w).1 with
  | error e =>
    refine ⟨.error e, acquired b w, fun java => ⟨?_, .notAcquired hget⟩⟩
    rw [ActionOn.runOn_bind_error (runOn_prepare_of_error (b := { b with java }) _ hget)]
    rfl
  | ok acquisition =>
    cases acquisition with
    | notPublished =>
      refine ⟨.ok (notPublishedResult b), acquired b w, fun java => ⟨?_, .notPublished hget⟩⟩
      rw [ActionOn.runOn_bind_ok (runOn_prepare_of_notPublished (b := { b with java }) _ hget)]
      rfl
    | present =>
      rcases hwrite : (ClasspathFile.write (config.classpath.map Text.codePoints)
        b.temporaryDirectory).runIn (readyWorld b w) with ⟨e | p, x⟩
      · refine ⟨.error e, x, fun java => ⟨?_, .notWritten hget hwrite⟩⟩
        have hprepare : (prepare (config.classpath.map Text.codePoints)).runOn { b with java } w
            = ((.error e, { b with java }), x) := by
          rw [runOn_prepare_of_present (b := { b with java }) _ hget]
          exact congrArg (fun written : Except Failure Path × World =>
            ((written.1.map some, { b with java }), written.2)) hwrite
        rw [ActionOn.runOn_bind_error hprepare]
      · exact absurd ⟨hget, hwrite⟩ (h p x)

/-- What is done with a classpath file: the Java command is needed first. -/
theorem runOn_carryOut (launch : Launcher) (config : BuildConfig) (p : Path) (b : Backend)
    (x : World) :
    (carryOut launch config p).runOn b x = match javaCommand.runOn b x with
      | ((.error e, b'), y) => ((.error e, b'), y)
      | ((.ok java, b'), y) =>
        ((((execute launch (plan config java b.acquirer.jarPath p)).runIn y).1, b'),
          ((execute launch (plan config java b.acquirer.jarPath p)).runIn y).2) := by
  unfold carryOut
  rw [ActionOn.runOn_bind]
  rcases hjava : javaCommand.runOn b x with ⟨⟨e | java, b'⟩, y⟩
  · rfl
  · dsimp only
    rw [ActionOn.runOn_bind_ok (ActionOn.runOn_thing b' y), ActionOn.runOn_lift,
      acquirer_javaCommand hjava]

/-- A function is asked in one world, and its first answer is kept. -/
theorem runOn_javaCommand_of_deferred {find : Action String} (hb : b.java = .deferred find)
    (x : World) :
    javaCommand.runOn b x = match find.runIn x with
      | (.ok command, y) => ((.ok command, { b with java := .known command }), y)
      | (.error e, y) => ((.error e, b), y) := by
  unfold ActionOn.runOn
  simp only [javaCommand, hb]
  rcases find.runIn x with ⟨e | command, y⟩ <;> rfl

/-- A command that is known is given without asking. -/
theorem runOn_javaCommand_of_known {command : String} (hb : b.java = .known command) (x : World) :
    javaCommand.runOn b x = ((.ok command, b), x) := by
  unfold ActionOn.runOn
  simp only [javaCommand, hb]

/-- What is left of a run once the Java command is there: the process, and the deletion of the classpath
file. -/
def finish (config : BuildConfig) (b : Backend) (p : Path) (command : String) (y : World) :
    Except Failure Result × World :=
  let ended := (execute worldLauncher (plan config command b.acquirer.jarPath p)).runIn y
  (ended.1, ((ClasspathFile.delete p).runIn ended.2).2)

/-- A run that is ready and knows the Java command only has to be finished. -/
theorem runOn_run_of_known {command : String} (hb : b.java = .known command)
    (h : Ready config b w p x) :
    (run config).runOn b w = (((finish config b p command x).1, b), (finish config b p command x).2) := by
  rw [runOn_run_of_ready h, runOn_carryOut, runOn_javaCommand_of_known hb]
  rfl

/-- A run that is ready asks the function of its backend in the world that it came to, and goes on in
the world that the function leaves. -/
theorem runOn_run_of_deferred {find : Action String} (hb : b.java = .deferred find)
    (h : Ready config b w p x) :
    (run config).runOn b w = match find.runIn x with
      | (.error e, y) => ((.error e, b), ((ClasspathFile.delete p).runIn y).2)
      | (.ok command, y) => (((finish config b p command y).1, { b with java := .known command }),
          (finish config b p command y).2) := by
  rw [runOn_run_of_ready h, runOn_carryOut, runOn_javaCommand_of_deferred hb]
  rcases find.runIn x with ⟨e | command, y⟩ <;> rfl

/-- The process of a launch is the only one that is started from when the classpath file is written
until it is deleted, and it is started with the Java command that is known, or that the function just
answered. -/
theorem Course.java_of_launch {l : Launch} {outcome : Except Failure Result} {w' : World}
    (h : Course config b w (some l) outcome w') :
    w'.started = l.ready.started ++ [l.process] ∧
      ((b.java = .known l.plan.executable) ∨ ∃ find p x y, b.java = .deferred find ∧
        Ready config b w p x ∧ find.runIn x = (.ok l.plan.executable, y)) := by
  cases h with
  | @launched p x y z java b' _ hget hwrite hsearch hrun =>
    refine ⟨?_, ?_⟩
    · have hstarted := (started_execute (plan config java b.acquirer.jarPath p) y).1
      rw [hrun] at hstarted
      rw [(ClasspathFile.within_delete_idle p z).started, hstarted]
      rfl
    · -- The command was known, or the search found it before the launch.
      cases hb : b.java with
      | known command =>
        rw [runOn_javaCommand_of_known hb] at hsearch
        cases hsearch
        exact Or.inl rfl
      | deferred find =>
        rw [runOn_javaCommand_of_deferred hb] at hsearch
        rcases hfind : find.runIn x with ⟨e | command, y'⟩
        · rw [hfind] at hsearch
          cases hsearch
        · rw [hfind] at hsearch
          cases hsearch
          exact Or.inr ⟨find, p, x, y, rfl, ⟨hget, hwrite⟩, hfind⟩

/-! ## Runs in a row -/

/-- A run of a backend: what others change before it, how the function behaves if it is asked in the
run, and the configuration. -/
structure Turn where
  change : World → World
  find : Action String
  config : BuildConfig

/-- A backend whose function behaves in some way, if there still is one. -/
def Backend.asking (b : Backend) (find : Action String) : Backend :=
  { b with
    java := match b.java with
      | .known command => .known command
      | .deferred _ => .deferred find }

/-- A backend that was used: as it is now, the world, and how its runs ended. -/
structure Used where
  backend : Backend
  world : World
  outcomes : List (Except Failure Result)

/-- One more run. -/
def Used.next (u : Used) (t : Turn) : Used :=
  let b := u.backend.asking t.find
  let w := t.change u.world
  { backend := ((run t.config).runOn b w).1.2
    world := ((run t.config).runOn b w).2
    outcomes := u.outcomes ++ [((run t.config).runOn b w).1.1] }

/-- A backend that was made with a function, after runs in a row. -/
def used (b : Backend) (find : Action String) (w : World) (ts : List Turn) : Used :=
  ts.foldl Used.next ⟨{ b with java := .deferred find }, w, []⟩

/-- The function has not answered yet: the backend still has it, and is as it was made otherwise. -/
def Used.Asking (b : Backend) (u : Used) : Prop :=
  ∃ find, u.backend = { b with java := .deferred find }

/-- A turn in which the function answers: its run gets ready, and the function, asked in the world that
the run came to, gives a command and another world. -/
structure Answers (b : Backend) (u : Used) (t : Turn) (command : String) : Prop where
  asking : u.Asking b
  answer : ∃ p x y, Ready t.config b (t.change u.world) p x ∧ t.find.runIn x = (.ok command, y)

/-- One of some turns is the one in which the function answered. -/
def Answered (b : Backend) (find : Action String) (w : World) (ts : List Turn)
    (command : String) : Prop :=
  ∃ before t after, ts = before ++ t :: after ∧ Answers b (used b find w before) t command

variable {u : Used} {t : Turn} {find : Action String} {ts : List Turn} {command : String}

/-- One more turn is taken where the ones before it ended. -/
theorem used_concat (b : Backend) (find : Action String) (w : World) (ts : List Turn) (t : Turn) :
    used b find w (ts ++ [t]) = (used b find w ts).next t := by
  rw [used, List.foldl_append]
  rfl

/-- Among more turns the one in which the function answered is still there. -/
theorem Answered.concat (h : Answered b find w ts command) (t : Turn) :
    Answered b find w (ts ++ [t]) command := by
  obtain ⟨before, first, after, rfl, hanswers⟩ := h
  exact ⟨before, first, after ++ [t], by rw [List.append_assoc, List.cons_append], hanswers⟩

/-- Readiness has nothing to do with the Java command. -/
theorem ready_with_java (java : JavaCommand) :
    Ready config { b with java } w p x ↔ Ready config b w p x :=
  ⟨fun h => ⟨h.present, h.written⟩, fun h => ⟨h.present, h.written⟩⟩

/-! ### A function that has not answered -/

/-- A run that does not get ready is the same with every function. -/
theorem Used.Asking.next_of_not_ready (h : u.Asking b)
    (hready : ∀ p x, ¬ Ready t.config b (t.change u.world) p x) :
    ∃ outcome w', ∀ find, u.next { t with find }
      = ⟨{ b with java := .deferred find }, w', u.outcomes ++ [outcome]⟩ := by
  obtain ⟨find, hbackend⟩ := h
  obtain ⟨outcome, w', hrun⟩ := runOn_run_of_not_ready hready
  refine ⟨outcome, w', fun other => ?_⟩
  have hnext : (run t.config).runOn (u.backend.asking other) (t.change u.world)
      = ((outcome, { b with java := .deferred other }), w') := by
    rw [hbackend]
    exact (hrun _).1
  unfold Used.next
  dsimp only
  rw [hnext]

/-- A run that gets ready asks the function in the world that it came to. -/
theorem Used.Asking.next_of_ready (h : u.Asking b)
    (hready : Ready t.config b (t.change u.world) p x) :
    u.next t = match t.find.runIn x with
      | (.error e, y) => ⟨{ b with java := .deferred t.find }, ((ClasspathFile.delete p).runIn y).2,
          u.outcomes ++ [.error e]⟩
      | (.ok command, y) => ⟨{ b with java := .known command }, (finish t.config b p command y).2,
          u.outcomes ++ [(finish t.config b p command y).1]⟩ := by
  obtain ⟨find, hbackend⟩ := h
  have hrun := runOn_run_of_deferred (b := { b with java := .deferred t.find }) rfl
    ((ready_with_java _).mpr hready)
  unfold Used.next
  rw [hbackend]
  show Used.mk ((run t.config).runOn { b with java := .deferred t.find } _).1.2
    ((run t.config).runOn { b with java := .deferred t.find } _).2
    (_ ++ [((run t.config).runOn { b with java := .deferred t.find } _).1.1]) = _
  rw [hrun]
  rcases t.find.runIn x with ⟨e | command, y⟩ <;> rfl

/-- So a backend has the answer of its function after the turn in which it answers, and still has the
function after any other. -/
theorem Used.Asking.next (h : u.Asking b) (t : Turn) :
    ((u.next t).Asking b ∧ ∀ command, ¬ Answers b u t command) ∨
      ∃ command, (u.next t).backend = { b with java := .known command } ∧ Answers b u t command ∧
        ∀ other, Answers b u t other → other = command := by
  by_cases hready : ∃ p x, Ready t.config b (t.change u.world) p x
  · obtain ⟨p, x, hready⟩ := hready
    -- The state in which the function is called is determined by the turn.
    have hunique : ∀ {command}, Answers b u t command → ∃ y, t.find.runIn x = (.ok command, y) := by
      rintro command ⟨-, p', x', y, hready', hfind⟩
      have hsame := hready.written.symm.trans hready'.written
      cases hsame
      exact ⟨y, hfind⟩
    rw [h.next_of_ready hready]
    rcases hfind : t.find.runIn x with ⟨e | command, y⟩
    · refine Or.inl ⟨⟨t.find, rfl⟩, fun command hanswers => ?_⟩
      obtain ⟨y', hfind'⟩ := hunique hanswers
      cases hfind.symm.trans hfind'
    · refine Or.inr ⟨command, rfl, ⟨h, p, x, y, hready, hfind⟩, fun other hanswers => ?_⟩
      obtain ⟨y', hfind'⟩ := hunique hanswers
      cases hfind.symm.trans hfind'
      rfl
  · have hnot : ∀ p x, ¬ Ready t.config b (t.change u.world) p x := fun p x hx => hready ⟨p, x, hx⟩
    obtain ⟨outcome, w', hnext⟩ := h.next_of_not_ready hnot
    refine Or.inl ⟨⟨t.find, congrArg Used.backend (hnext t.find)⟩, fun command hanswers => ?_⟩
    obtain ⟨p, x, y, hx, -⟩ := hanswers.answer
    exact hnot p x hx

/-! ### A function that has answered -/

/-- With the answer the function has no influence, and a run that gets ready only has to be finished. -/
theorem Used.next_of_known (hbackend : u.backend = { b with java := .known command }) (t : Turn) :
    (u.next t).backend = { b with java := .known command } ∧
      (∀ other, u.next { t with find := other } = u.next t) ∧
      ∀ p x, Ready t.config b (t.change u.world) p x →
        u.next t = ⟨{ b with java := .known command }, (finish t.config b p command x).2,
          u.outcomes ++ [(finish t.config b p command x).1]⟩ := by
  have hasking : ∀ find, u.backend.asking find = { b with java := .known command } := by
    intro find
    rw [hbackend]
    rfl
  have hfinish : ∀ p x, Ready t.config b (t.change u.world) p x →
      u.next t = ⟨{ b with java := .known command }, (finish t.config b p command x).2,
        u.outcomes ++ [(finish t.config b p command x).1]⟩ := by
    intro p x hready
    unfold Used.next
    dsimp only
    rw [hasking, runOn_run_of_known (b := { b with java := .known command }) rfl
      ((ready_with_java _).mpr hready)]
    rfl
  refine ⟨?_, fun other => ?_, hfinish⟩
  · -- The run may end before the search for Java, and then the backend is not changed either.
    by_cases hready : ∃ p x, Ready t.config b (t.change u.world) p x
    · obtain ⟨p, x, hready⟩ := hready
      rw [hfinish p x hready]
    · have hnot : ∀ p x, ¬ Ready t.config b (t.change u.world) p x :=
        fun p x hx => hready ⟨p, x, hx⟩
      obtain ⟨outcome, w', hrun⟩ := runOn_run_of_not_ready hnot
      unfold Used.next
      dsimp only
      rw [hasking, (hrun (.known command)).1]
  · unfold Used.next
    dsimp only
    rw [hasking, hasking]

/-- After runs in a row the backend still has its function, which has not answered in any of them, or
it has the answer that the function gave in one of them. -/
theorem asking_or_answered (b : Backend) (find : Action String) (w : World) (ts : List Turn) :
    ((used b find w ts).Asking b ∧ ∀ command, ¬ Answered b find w ts command) ∨
      ∃ command, (used b find w ts).backend = { b with java := .known command } ∧
        Answered b find w ts command ∧
        ∀ other, Answered b find w ts other → other = command := by
  -- From the front the history is a fold, so the induction takes the last turn off.
  induction ts using List.reverseRecOn with
  | nil =>
    refine Or.inl ⟨⟨find, rfl⟩, ?_⟩
    rintro command ⟨before, t, after, hsplit, -⟩
    exact absurd hsplit.symm (List.append_ne_nil_of_right_ne_nil _ (List.cons_ne_nil _ _))
  | append_singleton ts t ih =>
    -- The turn in which the function answered is the last one, or it was there before.
    have hcases : ∀ {command}, Answered b find w (ts ++ [t]) command →
        Answered b find w ts command ∨ Answers b (used b find w ts) t command := by
      rintro command ⟨before, first, after, hsplit, hanswers⟩
      rcases List.eq_nil_or_concat after with rfl | ⟨rest, last, rfl⟩
      · obtain ⟨rfl, hlast⟩ := List.append_inj' hsplit rfl
        cases hlast
        exact Or.inr hanswers
      · rw [List.concat_eq_append, ← List.cons_append, ← List.append_assoc] at hsplit
        obtain ⟨rfl, -⟩ := List.append_inj' hsplit rfl
        exact Or.inl ⟨before, first, rest, rfl, hanswers⟩
    rw [used_concat]
    rcases ih with ⟨hasking, hnone⟩ | ⟨command, hbackend, hanswered, hunique⟩
    · rcases hasking.next t with ⟨hstill, hnot⟩ | ⟨command, hknown, hanswers, hunique⟩
      · refine Or.inl ⟨hstill, fun command h => ?_⟩
        exact (hcases h).elim (hnone command) (hnot command)
      · refine Or.inr ⟨command, hknown, ⟨ts, t, [], rfl, hanswers⟩, fun other h => ?_⟩
        exact (hcases h).elim (fun h => absurd h (hnone other)) (hunique other)
    · refine Or.inr ⟨command, (Used.next_of_known hbackend t).1, hanswered.concat t, fun other h => ?_⟩
      refine (hcases h).elim (hunique other) fun hanswers => ?_
      obtain ⟨find', hdeferred⟩ := hanswers.asking
      rw [hbackend] at hdeferred
      cases congrArg Backend.java hdeferred

/-! ## Java asked for late and once -/

/-- In the first world in which the classpath file is written nothing but the jar was got. -/
theorem Ready.idle (h : Ready config b w p x) : (acquired b w).Idle x :=
  IsTrans.trans _ _ _ (idle_readyWorld b w)
    ((ClasspathFile.within_write_idle _ _).of_runIn h.written)

/-- Every process that is launched has the answer of the function as its command. -/
theorem course_used (b : Backend) (find : Action String) (w : World) (ts : List Turn) (t : Turn) :
    ∃ launch outcome,
      Course t.config ((used b find w ts).backend.asking t.find) (t.change (used b find w ts).world)
        launch outcome ((used b find w ts).next t).world ∧
      ((used b find w ts).next t).outcomes = (used b find w ts).outcomes ++ [outcome] ∧
      ∀ l, launch = some l →
        Answered b find w (ts ++ [t]) l.plan.executable ∧
        l.process.command.head? = some l.plan.executable ∧
        ((used b find w ts).next t).world.started = l.ready.started ++ [l.process] := by
  obtain ⟨launch, hcourse⟩ :=
    exists_course t.config ((used b find w ts).backend.asking t.find) (t.change (used b find w ts).world)
  refine ⟨launch, _, hcourse, rfl, ?_⟩
  rintro l rfl
  obtain ⟨hstarted, hcommand⟩ := hcourse.java_of_launch
  refine ⟨?_, rfl, hstarted⟩
  -- The launch uses the answer of this turn, or the one that is kept.
  rcases asking_or_answered b find w ts with ⟨hasking, -⟩ | ⟨command, hbackend, hanswered, -⟩
  · obtain ⟨other, hbackend⟩ := hasking
    rw [hbackend] at hcommand
    rcases hcommand with hknown | ⟨find', p, x, y, hjava, hready, hfind⟩
    · cases hknown
    · cases hjava
      exact ⟨ts, t, [], rfl, ⟨other, hbackend⟩, p, x, y, (ready_with_java _).mp hready, hfind⟩
  · rw [hbackend] at hcommand
    rcases hcommand with hknown | ⟨find', p, x, y, hjava, -⟩
    · cases hknown
      exact hanswered.concat t
    · cases hjava

end Forked

end Downlevel
