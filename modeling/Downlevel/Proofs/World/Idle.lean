import Downlevel.Backend.Embedded
import Downlevel.Proofs.ClasspathFile.Steps
import Downlevel.Proofs.World.Frame
import Downlevel.Resolution
/-!
# What steps start and call

A world notes the processes that were started and the functions that were called. Messages, steps on
files and the resolution of the Java runtime add nothing to these notes. A process that is run is
noted once, whether it can be started or not, and a run through an entry point calls at most once.
-/
namespace Downlevel

/-- Nothing is started, and nothing is called. -/
abbrev World.Idle : World → World → Prop :=
  Same fun w => (w.started, w.calls)

/-- Nothing is called, and what was started is not taken back. -/
def World.NoCall (w w' : World) : Prop :=
  w.started <+: w'.started ∧ w'.calls = w.calls

instance : Std.Refl World.NoCall :=
  ⟨fun _ => ⟨List.prefix_rfl, rfl⟩⟩

instance : IsTrans World World.NoCall :=
  ⟨fun _ _ _ h h' => ⟨h.1.trans h'.1, h'.2.trans h.2⟩⟩

namespace World

variable {w w' : World}

theorem Idle.started (h : w.Idle w') : w'.started = w.started :=
  congrArg Prod.fst h

theorem Idle.calls (h : w.Idle w') : w'.calls = w.calls :=
  congrArg Prod.snd h

/-- What is idle starts nothing and calls nothing. -/
theorem Idle.noCall (w w' : World) (h : w.Idle w') : w.NoCall w' :=
  ⟨h.started ▸ List.prefix_rfl, h.calls⟩

theorem OnlyRecorded.idle (w w' : World) (h : w.OnlyRecorded w') : w.Idle w' := by
  rw [h.rest]
  rfl

theorem OnlyTree.idle (w w' : World) (h : w.OnlyTree w') : w.Idle w' := by
  rw [h]
  rfl

theorem idle_recorded (w : World) (logger : String) (level : Level) (message : String) :
    w.Idle (w.recorded logger level message) :=
  OnlyRecorded.idle _ _ (onlyRecorded_recorded w logger level message)

end World

/-! ## Classpath files -/

namespace ClasspathFile

theorem within_delete_idle (p : Path) : (delete p).Within World.Idle := by
  intro w
  rcases runIn_delete p w with ⟨tree, -, hrun, -, -⟩ | ⟨e, -, hrun⟩
  · rw [hrun]
    rfl
  · rw [hrun]
    exact World.idle_recorded w _ _ _

theorem within_write_idle (entries : List Text.CodePoints) (directory : Option Path) :
    (write entries directory).Within World.Idle :=
  within_write (fun _ _ _ _ _ => rfl) entries directory

end ClasspathFile

/-! ## Processes -/

namespace Process

/-- What a process does is not noted of its parent. -/
theorem idle_after (script : ProcessScript) (w : World) : w.Idle (after script w) := by
  rw [onlyTree_after script w]
  rfl

/-- A process that is run is noted with its command, and with the classpath file that it names. -/
theorem started_run (command : List String) (directory : Option Path) (w : World) :
    ((run command directory).runIn w).2.started
        = w.started ++ [⟨command, directory, classpathText w command⟩] ∧
      ((run command directory).runIn w).2.calls = w.calls := by
  rw [runIn_run]
  split
  · exact ⟨rfl, rfl⟩
  · split
    · exact ⟨rfl, rfl⟩
    · rename_i script rest _
      have hidle := idle_after script { noted command directory w with scripts := rest }
      exact ⟨hidle.started, hidle.calls⟩

/-- Starting a process calls no function. -/
theorem within_run_noCall (command : List String) (directory : Option Path) :
    (run command directory).Within World.NoCall := by
  intro w
  obtain ⟨hstarted, hcalls⟩ := started_run command directory w
  exact ⟨hstarted ▸ List.prefix_append _ _, hcalls⟩

end Process

/-! ## Entry points -/

namespace Embedded

/-- The call of a function starts nothing, and it is noted whatever the function raises. -/
theorem started_call (entry : Entry) (properties : List (String × String)) (w : World) :
    ((call entry properties).runIn w).2.started = w.started ∧
      ((call entry properties).runIn w).2.calls = w.calls ++ [⟨entry.target, properties⟩] := by
  unfold call
  rw [Action.runIn_bind_ok (Action.runIn_modify _ w)]
  cases entry.raised with
  | none => exact ⟨rfl, rfl⟩
  | some failure => exact ⟨rfl, rfl⟩

/-- A run through an entry point starts nothing. It calls once, with the properties of its
configuration, unless the entry point cannot be loaded. -/
theorem started_run (point : EntryPoint) (config : BuildConfig) (w : World) :
    ((run point config).runIn w).2.started = w.started ∧
      (((run point config).runIn w).2.calls = w.calls ∨
        ∃ target, ((run point config).runIn w).2.calls
          = w.calls ++ [⟨target, config.properties⟩]) := by
  have htold := w.idle_recorded logger .info "Processing classes with Retrolambda"
  unfold run
  rw [Action.runIn_bind_ok (Action.runIn_logAs _ _ _ _)]
  revert htold
  generalize w.recorded logger .info "Processing classes with Retrolambda" = v
  intro htold
  rw [← htold.started, ← htold.calls, Action.runIn_bind_ok (Action.runIn_view _ v),
    Action.runIn_bind, Action.runIn_orFail, Action.runIn_bind_ok (Action.runIn_get v),
    Action.runIn_bind, Action.runIn_ofExcept]
  -- The entry point is not found, or it is called once.
  rcases point.entry v with e | entry
  · exact ⟨rfl, Or.inl rfl⟩
  · have hcall := started_call entry config.properties v
    dsimp only
    revert hcall
    rcases (call entry config.properties).runIn v with ⟨e | ⟨⟩, x⟩
    · exact fun hcall => ⟨hcall.1, Or.inr ⟨entry.target, hcall.2⟩⟩
    · exact fun hcall => ⟨hcall.1, Or.inr ⟨entry.target, hcall.2⟩⟩

end Embedded

/-- All that a copying does is no call. -/
theorem World.covers_noCall : World.Covers World.NoCall where
  recorded := fun w logger level message => (w.idle_recorded logger level message).noCall
  onlyTree := fun w w' h => (World.OnlyTree.idle w w' h).noCall
  run := Process.within_run_noCall

/-! ## Acquisition -/

/-- After the copying an acquisition only tells what came of it. -/
theorem Acquirer.idle_ensurePresent (a : Acquirer) (version : String) (w : World) :
    World.Idle ((a.repository.copy (.retrolambda version) a.jarPath).runIn (asked version w)).2
      ((a.ensurePresent version).runIn w).2 := by
  rw [runIn_ensurePresent]
  rcases (a.repository.copy (.retrolambda version) a.jarPath).runIn (asked version w) with
    ⟨e | ⟨⟩, v⟩
  · dsimp only
    split
    · exact v.idle_recorded _ _ _
    · rfl
  · rfl

/-- A directory of artifacts is copied from without any process. -/
theorem Acquirer.started_of_localStore {a : Acquirer} {root : Path}
    (h : a.repository = .localStore root) (version : String) (w : World) :
    ((a.ensurePresent version).runIn w).2.started = w.started := by
  rw [(a.idle_ensurePresent version w).started, h]
  have hcopy := (Repository.within_copyFrom root (.retrolambda version) a.jarPath).mono
    World.OnlyTree.idle (asked version w)
  exact hcopy.started.trans (w.idle_recorded _ _ _).started

/-- A build tool is started once. -/
theorem BuildToolCopier.started_copy (m : BuildToolCopier) (c : Coordinates) (destination : Path)
    (w : World) :
    ∃ text, ((m.copy c destination).runIn w).2.started
      = w.started ++ [⟨m.command c destination, m.projectDir, text⟩] := by
  have hran : ∃ text, (m.ran c destination w).2.started
      = w.started ++ [⟨m.command c destination, m.projectDir, text⟩] := by
    rw [ran, (Process.started_run _ _ _).1, (w.idle_recorded _ _ _).started]
    exact ⟨_, rfl⟩
  obtain ⟨text, hran⟩ := hran
  refine ⟨text, ?_⟩
  rw [runIn_copy, ← hran]
  rcases m.ran c destination w with ⟨e | outcome, x⟩
  · rfl
  · exact (World.OnlyTree.idle _ _ (within_settle c destination outcome x)).started

/-- A build tool is started once for an acquisition. -/
theorem Acquirer.started_of_buildTool {a : Acquirer} {m : BuildToolCopier}
    (h : a.repository = .buildTool m) (version : String) (w : World) :
    ∃ text, ((a.ensurePresent version).runIn w).2.started
      = w.started ++ [⟨m.command (.retrolambda version) a.jarPath, m.projectDir, text⟩] := by
  obtain ⟨text, hcopy⟩ := m.started_copy (.retrolambda version) a.jarPath (asked version w)
  refine ⟨text, ?_⟩
  rw [(a.idle_ensurePresent version w).started, h, ← (w.idle_recorded _ _ _).started]
  exact hcopy

end Downlevel
