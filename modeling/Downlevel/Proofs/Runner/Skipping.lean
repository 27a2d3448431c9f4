import Downlevel.Proofs.Runner.Oblivious
import Downlevel.Proofs.World.LogFiles
/-!
# Skipped runs

A skipped run says that it is skipped, and does nothing else. Put between other uses of a runner, it
is as if its message had been recorded there. Nobody reads the journal and the error stream, so
everything else goes as it would have gone without it, unless the log writes it to a file: files are
read.
-/
namespace Downlevel

namespace Runner

/-! ## Uses of a runner -/

/-- What is around a run and can be changed by others. -/
structure Surroundings where
  machine : Machine
  tree : FileTree
  cwd : Place
  environment : List (String × String)
  modules : List (String × Module)
  scripts : List ProcessScript
  breaks : List (Option Break)
  distributionVersion : Option String
  clock : Float

/-- The surroundings in a world. -/
def surroundings (w : World) : Surroundings :=
  ⟨w.machine, w.tree, w.cwd, w.environment, w.modules, w.scripts, w.breaks, w.distributionVersion,
    w.clock⟩

/-- A world in other surroundings. -/
def surrounded (w : World) (s : Surroundings) : World :=
  { w with
    machine := s.machine
    tree := s.tree
    cwd := s.cwd
    environment := s.environment
    modules := s.modules
    scripts := s.scripts
    breaks := s.breaks
    distributionVersion := s.distributionVersion
    clock := s.clock }

/-- A use of a runner, or a change of the surroundings between uses. -/
inductive Use where
  | execute (parameters : Parameters) (goal : Goal)
  | resolveJava (parameters : Parameters)
  | change (f : Surroundings → Surroundings)

/-- What comes of a use. -/
inductive Reply where
  | ran (outcome : Except Failure Result)
  | resolved (found : Except Failure Candidate)
  | changed

/-- What comes of a use, and what it adds to the journal. -/
structure Answer where
  reply : Reply
  records : List (String × String)

/-- Uses a runner once. -/
def Use.run (use : Use) (r : Runner) (w : World) : (Reply × Runner) × World :=
  match use with
  | .execute parameters goal =>
    ((.ran ((Runner.execute parameters goal).runOn r w).1.1,
      ((Runner.execute parameters goal).runOn r w).1.2),
      ((Runner.execute parameters goal).runOn r w).2)
  | .resolveJava parameters =>
    ((.resolved ((Runner.resolveJava parameters).runOn r w).1.1,
      ((Runner.resolveJava parameters).runOn r w).1.2),
      ((Runner.resolveJava parameters).runOn r w).2)
  | .change f => ((.changed, r), surrounded w (f (surroundings w)))

/-- A runner that was used: as it is now, the world, and the answers so far. -/
structure Used where
  runner : Runner
  world : World
  answers : List Answer

/-- One more use. -/
def Used.next (u : Used) (use : Use) : Used where
  runner := (use.run u.runner u.world).1.2
  world := (use.run u.runner u.world).2
  answers := u.answers ++ [⟨(use.run u.runner u.world).1.1,
    (use.run u.runner u.world).2.journal.drop u.world.journal.length⟩]

/-- A runner after uses in a row. -/
def used (r : Runner) (w : World) (uses : List Use) : Used :=
  uses.foldl Used.next ⟨r, w, []⟩

variable {r : Runner} {w : World} {records : List (String × String)} {text : String}

/-! ## The repository is kept -/

/-- A run keeps the repository of its runner. -/
theorem repositoryIn_execute (parameters : Parameters) (goal : Goal) (r : Runner) (w : World) :
    ((execute parameters goal).runOn r w).1.2.repositoryIn = r.repositoryIn := by
  -- Every stage keeps the runner or fills in a collaborator; the repository is the same one.
  cases hskip : parameters.skip with
  | true =>
    unfold execute
    rw [hskip, if_pos rfl]
    rfl
  | false =>
    rw [runOn_execute hskip]
    rcases (Validation.validate parameters r.project (r.hostIn w) goal).runIn w with
      ⟨e | config, x⟩
    · rfl
    · dsimp only
      cases hfork : config.fork with
      | false =>
        rw [ActionOn.runOn_bind_ok (runOn_carrier_embedded hfork), runOn_finish]
        rfl
      | true =>
        rw [ActionOn.runOn_bind, runOn_carrier_forked hfork]
        rcases (Runner.loading { r with host := some (r.hostIn w) }).runIn x with ⟨e | registry, y⟩
        · rfl
        · dsimp only
          cases Artifact.detectVersion y r.settings.runner.version with
          | error e => rfl
          | ok version =>
            simp only [Except.map]
            rw [runOn_finish]
            rfl

theorem repositoryIn_resolveJava (parameters : Parameters) (r : Runner) (w : World) :
    ((resolveJava parameters).runOn r w).1.2.repositoryIn = r.repositoryIn := by
  rw [runOn_resolveJava]
  rcases r.loading.runIn w with ⟨e | registry, x⟩ <;> rfl

/-- A runner works with one repository, however it is used. -/
theorem repositoryIn_run (use : Use) (r : Runner) (w : World) :
    (use.run r w).1.2.repositoryIn = r.repositoryIn := by
  cases use with
  | execute parameters goal => exact repositoryIn_execute parameters goal r w
  | resolveJava parameters => exact repositoryIn_resolveJava parameters r w
  | change f => rfl

/-- No use changes the repository of a runner. -/
theorem repositoryIn_foldl (uses : List Use) (u : Used) :
    (uses.foldl Used.next u).runner.repositoryIn = u.runner.repositoryIn := by
  induction uses generalizing u with
  | nil => rfl
  | cons use uses ih =>
    rw [List.foldl_cons, ih]
    exact repositoryIn_run use u.runner u.world

/-! ## Uses do not look back -/

/-- A use comes to the same, whatever was told before. -/
theorem Use.run_preceded (hr : r.repositoryIn.Oblivious) (use : Use) (w : World)
    (records : List (String × String)) (text : String) :
    use.run r (w.preceded records text)
      = ((use.run r w).1, (use.run r w).2.preceded records text) := by
  cases use with
  | execute parameters goal =>
    unfold run
    dsimp only
    rw [runOn_execute_preceded hr]
  | resolveJava parameters =>
    unfold run
    dsimp only
    rw [runOn_resolveJava_preceded]
  | change f => rfl

/-- One more use gives the same answer whatever was told before. -/
theorem Used.next_preceded {u : Used} (hr : u.runner.repositoryIn.Oblivious) (use : Use)
    (records : List (String × String)) (text : String) (answers : List Answer) :
    Used.next ⟨u.runner, u.world.preceded records text, answers ++ u.answers⟩ use
      = ⟨(u.next use).runner, (u.next use).world.preceded records text,
        answers ++ (u.next use).answers⟩ := by
  have hlength : (u.world.preceded records text).journal.length
      = records.length + u.world.journal.length := List.length_append
  -- The records of an answer begin where the journal ended, and that moves along.
  have hdrop : ((use.run u.runner u.world).2.preceded records text).journal.drop
      (records.length + u.world.journal.length)
        = (use.run u.runner u.world).2.journal.drop u.world.journal.length :=
    List.drop_length_add_append _
  unfold next
  dsimp only
  rw [use.run_preceded hr, hlength]
  dsimp only
  rw [hdrop, List.append_assoc]

/-- Uses in a row give the same answers whatever was told and answered before. -/
theorem Used.foldl_preceded {u : Used} (hr : u.runner.repositoryIn.Oblivious) (uses : List Use)
    (records : List (String × String)) (text : String) (answers : List Answer) :
    uses.foldl Used.next ⟨u.runner, u.world.preceded records text, answers ++ u.answers⟩
      = ⟨(uses.foldl Used.next u).runner, (uses.foldl Used.next u).world.preceded records text,
        answers ++ (uses.foldl Used.next u).answers⟩ := by
  induction uses generalizing u with
  | nil => rfl
  | cons use uses ih =>
    -- A use may make the collaborators, but it leaves the repository alone.
    have hkept : (u.next use).runner.repositoryIn.Oblivious := by
      rw [show (u.next use).runner.repositoryIn = u.runner.repositoryIn from
        repositoryIn_run use u.runner u.world]
      exact hr
    rw [List.foldl_cons, List.foldl_cons, Used.next_preceded hr, ih hkept]

/-! ## A skipped run -/

/-- What a skipped run says. -/
def skipText : String := "Skipping execution (skip=true)"

/-- What a skipped run adds to the journal. -/
def skipRecords (w : World) : List (String × String) :=
  if w.log.records .info then [(Level.info.name, skipText)] else []

/-- What comes of a skipped run. -/
def skipAnswer (w : World) : Answer :=
  ⟨.ran (.ok (.skip "skip=true")), skipRecords w⟩

/-- A skipped run is a message. -/
theorem runOn_execute_skip {parameters : Parameters} (hskip : parameters.skip = true) (goal : Goal)
    (r : Runner) (w : World) :
    (execute parameters goal).runOn r w
      = ((.ok (.skip "skip=true"), r), w.recorded logger .info skipText) := by
  unfold execute
  rw [hskip, if_pos rfl]
  rfl

theorem inFamily_logger : Log.inFamily logger = true := by decide +kernel

/-- A skipped run tells its message, and changes nothing else. -/
theorem Used.next_skip {parameters : Parameters} (hskip : parameters.skip = true) (goal : Goal)
    (u : Used) : u.next (.execute parameters goal)
      = ⟨u.runner, u.world.recorded logger .info skipText, u.answers ++ [skipAnswer u.world]⟩ := by
  have hrecords : (u.world.recorded logger .info skipText).journal.drop u.world.journal.length
      = skipRecords u.world := by
    unfold skipRecords
    cases hinfo : u.world.log.records .info with
    | true =>
      rw [World.journal_recorded inFamily_logger hinfo, List.drop_left, if_pos rfl]
    | false =>
      rw [World.recorded, World.recordedPoints, hinfo, if_neg Bool.false_ne_true, List.drop_length,
        if_neg Bool.false_ne_true]
  unfold next Use.run
  dsimp only
  rw [runOn_execute_skip hskip, hrecords]
  rfl

/-- A world that has told nothing yet. -/
def silent (w : World) : World :=
  { w with
    journal := []
    errorStream := "" }

/-- A world is its silent one after what was told. -/
theorem preceded_silent (w : World) : (silent w).preceded w.journal w.errorStream = w := by
  unfold silent World.preceded
  dsimp only
  rw [List.append_nil, String.append_empty]

/-- Later uses are those of a runner in a world that has told nothing, after what was told. -/
theorem Used.foldl_eq {u : Used} (hr : u.runner.repositoryIn.Oblivious) (uses : List Use) :
    uses.foldl Used.next u
      = ⟨(uses.foldl Used.next ⟨u.runner, silent u.world, []⟩).runner,
        (uses.foldl Used.next ⟨u.runner, silent u.world, []⟩).world.preceded
          u.world.journal u.world.errorStream,
        u.answers ++ (uses.foldl Used.next ⟨u.runner, silent u.world, []⟩).answers⟩ := by
  have hfold := Used.foldl_preceded (u := ⟨u.runner, silent u.world, []⟩) hr uses
    u.world.journal u.world.errorStream u.answers
  dsimp only at hfold
  rw [preceded_silent, List.append_nil] at hfold
  exact hfold

/-- **A skipped run is invisible.** Between uses of a runner and changes of its surroundings a skipped
run gives the result of a skip and leaves the runner as it was, and everything goes as if its message
had been recorded in its place. If the log writes messages of its level to no file there, and the
repository does not look at the log, then without the skipped run all others give the same answers and
records, and the world ends up the same but for that record in the journal and its line in the error
stream. -/
theorem skip_invisible (parameters : Parameters) (goal : Goal) (hskip : parameters.skip = true)
    (r : Runner) (w : World) (before after : List Use) :
    let u := used r w before
    let without := used r w (before ++ after)
    let skipped := used r w (before ++ .execute parameters goal :: after)
    (execute parameters goal).runOn u.runner u.world
      = ((.ok (.skip "skip=true"), u.runner), u.world.recorded logger .info skipText) ∧
    skipped = after.foldl Used.next
      ⟨u.runner, u.world.recorded logger .info skipText, u.answers ++ [skipAnswer u.world]⟩ ∧
    (r.repositoryIn.Oblivious → ¬ u.world.log.WritesFile .info →
      ∃ answers records line text,
        without.answers = u.answers ++ answers ∧
        skipped.answers = u.answers ++ skipAnswer u.world :: answers ∧
        skipped.runner = without.runner ∧
        without.world.journal = u.world.journal ++ records ∧
        skipped.world.journal = u.world.journal ++ skipRecords u.world ++ records ∧
        without.world.errorStream = u.world.errorStream ++ text ∧
        skipped.world.errorStream = u.world.errorStream ++ line ++ text ∧
        skipped.world = { without.world with
          journal := skipped.world.journal
          errorStream := skipped.world.errorStream }) := by
  intro u without skipped
  have hwithout : without = after.foldl Used.next u := List.foldl_append
  have hskipped : skipped = after.foldl Used.next
      ⟨u.runner, u.world.recorded logger .info skipText, u.answers ++ [skipAnswer u.world]⟩ := by
    rw [← u.next_skip hskip goal]
    exact List.foldl_append
  refine ⟨runOn_execute_skip hskip goal _ _, hskipped, fun hr hfiles => ?_⟩
  -- At the skipped run the runner still works with the repository that it started with.
  have hkept : u.runner.repositoryIn.Oblivious := by
    rw [show u.runner.repositoryIn = r.repositoryIn from repositoryIn_foldl before ⟨r, w, []⟩]
    exact hr
  obtain ⟨line, hrecorded⟩ := World.recorded_of_no_file hfiles inFamily_logger skipText
  -- Both go on like a runner in a world that has told nothing.
  have hsilent : silent (u.world.recorded logger .info skipText) = silent u.world := by
    rw [hrecorded]
    rfl
  rw [Used.foldl_eq hkept] at hwithout
  rw [Used.foldl_eq (u := ⟨u.runner, u.world.recorded logger .info skipText,
    u.answers ++ [skipAnswer u.world]⟩) hkept] at hskipped
  dsimp only at hskipped
  rw [hsilent, hrecorded] at hskipped
  generalize after.foldl Used.next ⟨u.runner, silent u.world, []⟩ = later at hwithout hskipped
  rw [hwithout, hskipped]
  refine ⟨later.answers, later.world.journal, line, later.world.errorStream, rfl, ?_, rfl, rfl, rfl,
    rfl, rfl, rfl⟩
  exact List.append_assoc _ _ _

/-- A skipped run before a question for the Java runtime is told, and has no other effect. -/
theorem skip_invisible_given :
    ∃ answers,
      (used givenRunner ClasspathFile.emptyMachine [.resolveJava {}]).answers = answers ∧
      (used givenRunner ClasspathFile.emptyMachine
        [.execute { skip := true } .main, .resolveJava {}]).answers
          = ⟨.ran (.ok (.skip "skip=true")), [("INFO", "Skipping execution (skip=true)")]⟩
            :: answers ∧
      (used givenRunner ClasspathFile.emptyMachine
        [.execute { skip := true } .main, .resolveJava {}]).world.tree
          = (used givenRunner ClasspathFile.emptyMachine [.resolveJava {}]).world.tree := by
  have hcopy : givenRunner.repositoryIn.Oblivious := by
    rintro copy ⟨⟩ c destination
    exact Action.oblivious_pure ()
  have hfiles : ¬ ClasspathFile.emptyMachine.log.WritesFile .info := by
    rintro ⟨-, id, least, hmem, -⟩
    cases hmem
  obtain ⟨-, -, hinvisible⟩ := skip_invisible { skip := true } .main rfl givenRunner
    ClasspathFile.emptyMachine [] [.resolveJava {}]
  obtain ⟨answers, records, line, text, hwithout, hskipped, -, -, -, -, -, hworld⟩ :=
    hinvisible hcopy hfiles
  have htree := congrArg World.tree hworld
  exact ⟨answers, hwithout, hskipped, htree⟩

/-! ## Log files -/

/-- A machine on which the log is written to a file. -/
def loggingMachine : World where
  tree := { nodes := [(["run.log"], .file 1 false [])] }
  cwd := []
  environment := []
  log := ⟨.info, [.file 1 .info]⟩

/-- With a skipped run the log file is another one than without it. -/
theorem skip_visible_in_log_file :
    (used givenRunner loggingMachine [.execute { skip := true } .main]).world.tree
      ≠ (used givenRunner loggingMachine []).world.tree := by
  have hskipped : (used givenRunner loggingMachine [.execute { skip := true } .main]).world
      = loggingMachine.recorded logger .info skipText := by
    rw [used, List.foldl_cons, List.foldl_nil, Used.next_skip rfl]
  have hchanged := World.find?_recorded_ne (w := loggingMachine) rfl inFamily_logger skipText
    (show loggingMachine.tree.find? ["run.log"] = some (.file 1 false []) from rfl)
  rw [hskipped]
  exact fun hsame => hchanged (congrArg (·.find? ["run.log"]) hsame)

end Runner

end Downlevel
