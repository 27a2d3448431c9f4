import Downlevel.Artifact
import Downlevel.Proofs.World.Recording
/-!
# What steps leave alone

The steps on files change the tree of the world and nothing else. A process that is run changes the
tree, the clock, and what is noted of processes. The acquisition of the jar is made of such steps
and of messages, so it leaves the pending classpath files alone, unless it copies by means of its
own that do not.
-/
namespace Downlevel

/-! ## Relations between worlds -/

/-- The tree changed at most, and what lies ahead of coming writes. -/
def World.OnlyTree (w w' : World) : Prop :=
  w' = { w with tree := w'.tree, breaks := w'.breaks }

instance : Std.Refl World.OnlyTree :=
  ⟨fun _ => rfl⟩

instance : IsTrans World World.OnlyTree where
  trans := by
    intro u v w h h'
    unfold World.OnlyTree at *
    rw [h', h]

instance : Std.Refl World.OnlyRecorded :=
  ⟨World.OnlyRecorded.refl⟩

instance : IsTrans World World.OnlyRecorded :=
  ⟨fun _ _ _ => World.OnlyRecorded.trans⟩

theorem within_logAs_onlyRecorded (logger : String) (level : Level) (message : String) :
    (logAs logger level message).Within World.OnlyRecorded :=
  Action.within_logAs World.onlyRecorded_recorded logger level message

/-! ## Files -/

namespace Files

theorem within_rename (p q : Path) : (rename p q).Within World.OnlyTree := by
  refine Action.within_get_bind fun w => ?_
  cases w.tree.rename w.cwd p q <;> rfl

/-- To ask a world something is to read it off. -/
theorem runIn_asked {α : Type} (f : World → Except Failure α) (w : World) :
    (get >>= fun w => Action.ofExcept (f w) : Action α).runIn w = (f w, w) := by
  rw [Action.runIn_bind_ok (Action.runIn_get w), Action.runIn_ofExcept]

/-- Reading asks the file tree. -/
theorem runIn_read (p : Path) (w : World) :
    (read p).runIn w = (refused p (w.tree.read w.cwd p), w) :=
  runIn_asked _ w

/-- Whether something is there is asked of the file tree. -/
theorem runIn_holds (p : Path) (w : World) :
    (holds p).runIn w = (refused p (w.tree.holds w.cwd p), w) :=
  runIn_asked _ w

/-- Whether a path is a file is asked of the file tree. -/
theorem runIn_isFile (p : Path) (w : World) :
    (isFile p).runIn w = (refused p (w.tree.isFile w.cwd p), w) :=
  runIn_asked _ w

section Refl

variable {R : World → World → Prop} [Std.Refl R]

/-- A step that only asks the world leaves it as it is. -/
theorem within_asked {α : Type} (f : World → Except Failure α) :
    (get >>= fun w => Action.ofExcept (f w)).Within R :=
  Action.within_get_bind fun w => Action.within_ofExcept (f w) w

theorem within_read (p : Path) : (read p).Within R :=
  within_asked _

theorem within_holds (p : Path) : (holds p).Within R :=
  within_asked _

theorem within_isFile (p : Path) : (isFile p).Within R :=
  within_asked _

theorem within_unlessDirectory (e : Errno) (p : Path) : (unlessDirectory e p).Within R := by
  refine Action.within_get_bind fun w => ?_
  cases h : refused p (w.tree.isDirectory w.cwd p) with
  | error e' => exact Action.within_throw e' w
  | ok found => cases found <;> exact Std.Refl.refl w

end Refl

/-- Making directories is a sequence of steps that make one. -/
theorem within_makeDirectories_of {R : World → World → Prop} [Std.Refl R] [IsTrans World R]
    (h : ∀ (w : World) (p : Path) tree, w.tree.makeDirectory w.cwd p = .ok tree →
      R w { w with tree })
    (fuel : Nat) (p : Path) : (makeDirectories fuel p).Within R := by
  induction fuel generalizing p with
  | zero =>
    unfold makeDirectories
    refine Action.within_get_bind fun w => ?_
    split
    · rename_i tree hmake
      exact h w p tree hmake
    · exact ((Action.within_throw _).ite (Action.within_throw _)) w
    · exact within_unlessDirectory _ p w
  | succ fuel ih =>
    unfold makeDirectories
    refine Action.within_get_bind fun w => ?_
    split
    · rename_i tree hmake
      exact h w p tree hmake
    · refine ((Action.within_throw _).ite ?_) w
      -- The directories above are made first, and then the directory itself.
      refine (ih p.parent).bind fun _ => ?_
      refine Action.within_get_bind fun w' => ?_
      split
      · rename_i tree hlast
        exact h w' p tree hlast
      · exact within_unlessDirectory _ p w'
    · exact within_unlessDirectory _ p w

theorem within_makeDirectories (fuel : Nat) (p : Path) :
    (makeDirectories fuel p).Within World.OnlyTree :=
  within_makeDirectories_of (fun _ _ _ _ => rfl) fuel p

theorem within_makeDirectoriesOf (p : Path) : (makeDirectoriesOf p).Within World.OnlyTree :=
  within_makeDirectories _ p

/-- How the next write of a world breaks off, if it does. -/
def nextBreak (w : World) : Option Break :=
  w.breaks.head?.join

/-- What becomes of a write: it is refused, or the file has what was written of it, all or up to the
break. -/
theorem runIn_writeOr (fault : Break → Fault) (p : Path) (bytes : List UInt8) (w : World) :
    (writeOr fault p bytes).runIn w =
      match w.tree.write w.cwd w.freshId p (kept bytes (nextBreak w)) with
      | .error e => (.error (failure e p), w)
      | .ok tree => (match nextBreak w with
          | none => .ok ()
          | some b => .error ⟨fault b, []⟩, { w with tree, breaks := w.breaks.tail }) := by
  unfold writeOr nextBreak
  rw [Action.runIn_bind_ok (Action.runIn_get w), Action.runIn_bind, Action.runIn_ofExcept]
  cases w.tree.write w.cwd w.freshId p (kept bytes w.breaks.head?.join) with
  | error e => rfl
  | ok tree =>
    dsimp only [refused]
    rw [Action.runIn_bind_ok (Action.runIn_set _ w)]
    cases w.breaks.head?.join <;> rfl

/-- A refusal about no path is one of the system as well. -/
theorem isOs_unnamed (e : Errno) : (Fault.unnamed e).isOs = true := by
  rw [Fault.unnamed, Fault.isOs]
  unfold osFaultName
  split <;> decide

theorem within_writeOr (fault : Break → Fault) (p : Path) (bytes : List UInt8) :
    (writeOr fault p bytes).Within World.OnlyTree := by
  intro w
  rw [runIn_writeOr]
  split
  · exact Std.Refl.refl w
  · rfl

theorem within_write (p : Path) (bytes : List UInt8) : (write p bytes).Within World.OnlyTree :=
  within_writeOr _ p bytes

theorem within_copy (source target : Path) : (copy source target).Within World.OnlyTree := by
  have hcopied : (read source >>= fun bytes =>
      writeOr (copyFault source target) target bytes).Within World.OnlyTree :=
    (within_read source).bind fun bytes => within_writeOr _ target bytes
  refine Action.within_get_bind fun w => ?_
  dsimp only
  split
  · split
    · rfl
    · exact hcopied w
  · exact hcopied w

end Files

/-! ## Processes -/

namespace Process

variable {w : World}

theorem onlyTree_removed (w : World) (s : String) : w.OnlyTree (w.removed s) := by
  unfold World.removed
  split <;> rfl

theorem onlyTree_placed (w : World) (s : String) (spec : FileSpec) :
    w.OnlyTree (w.placed s spec) := by
  unfold World.placed
  dsimp only
  split
  · split <;> rfl
  · rfl
  · rfl

/-- Whatever a process does to the files, it does not reach the memory of its parent. -/
theorem onlyTree_after (script : ProcessScript) (w : World) :
    World.OnlyTree { w with clock := w.clock + script.seconds } (after script w) := by
  have hremoved : ∀ (paths : List String) (w : World),
      w.OnlyTree (paths.foldl World.removed w) := by
    intro paths
    induction paths with
    | nil => exact fun _ => rfl
    | cons s paths ih => exact fun w => IsTrans.trans _ _ _ (onlyTree_removed w s) (ih _)
  have hplaced : ∀ (specs : List (String × FileSpec)) (w : World),
      w.OnlyTree (specs.foldl (fun w e => w.placed e.1 e.2) w) := by
    intro specs
    induction specs with
    | nil => exact fun _ => rfl
    | cons e specs ih => exact fun w => IsTrans.trans _ _ _ (onlyTree_placed w e.1 e.2) (ih _)
  exact IsTrans.trans _ _ _ (hremoved script.removes _) (hplaced script.writes _)

/-- What becomes of a command: it is not started, it is not there, or its script is run. -/
theorem runIn_run (command : List String) (directory : Option Path) (w : World) :
    (run command directory).runIn w = match startFault? w command directory with
      | some fault => (.error ⟨fault, []⟩, noted command directory w)
      | none => match w.scripts with
        | [] => (.error ⟨.os .noEntry (command.headD "") none, []⟩, noted command directory w)
        | script :: rest =>
          (outcomeOf script, after script { noted command directory w with scripts := rest }) := by
  unfold run
  rw [Action.runIn_bind_ok (Action.runIn_get w)]
  dsimp only
  cases startFault? w command directory with
  | some fault => rfl
  | none =>
    dsimp only
    -- A process without a script is a command that is not found.
    cases w.scripts with
    | nil => rfl
    | cons script rest =>
      dsimp only
      rw [Action.runIn_bind_ok (Action.runIn_set _ w), Action.runIn_ofExcept]

/-- A process changes the tree, the clock, and what is noted of processes. -/
theorem within_run {β : Type} {g : World → β}
    (hg : ∀ (w : World) tree breaks clock scripts started,
      g { w with tree, breaks, clock, scripts, started } = g w)
    (command : List String) (directory : Option Path) :
    (run command directory).Within (Same g) := by
  intro w
  rw [runIn_run]
  split
  · exact hg w w.tree w.breaks w.clock w.scripts _
  · split
    · exact hg w w.tree w.breaks w.clock w.scripts _
    · rename_i script rest _
      dsimp only [Same]
      rw [onlyTree_after script]
      exact hg w _ _ _ rest _

end Process

/-! ## Acquisition -/

/-- Messages, changes of the tree and processes stay within a relation. These are what the
acquisition of the jar is made of. -/
structure World.Covers (R : World → World → Prop) : Prop where
  recorded : ∀ w logger level message, R w (w.recorded logger level message)
  onlyTree : ∀ w w', w.OnlyTree w' → R w w'
  run : ∀ command directory, (Process.run command directory).Within R

/-- What has nothing to do with messages, files and processes stays as it is. -/
theorem World.covers_same {β : Type} {g : World → β}
    (hrecorded : ∀ (w : World) logger level message, g (w.recorded logger level message) = g w)
    (hg : ∀ (w : World) tree breaks clock scripts started,
      g { w with tree, breaks, clock, scripts, started } = g w) : World.Covers (Same g) where
  recorded := hrecorded
  onlyTree := by
    intro w w' h
    rw [Same, h]
    exact hg w w'.tree w'.breaks w.clock w.scripts w.started
  run := Process.within_run hg

theorem World.covers_pending : World.Covers (Same World.pending) :=
  World.covers_same (fun _ _ _ _ => World.recorded_pending) fun _ _ _ _ _ _ => rfl

theorem World.covers_log : World.Covers (Same World.log) :=
  World.covers_same (fun _ _ _ _ => World.recorded_log) fun _ _ _ _ _ _ => rfl

theorem within_logAs_pending (logger : String) (level : Level) (message : String) :
    (logAs logger level message).Within (Same World.pending) :=
  Action.within_logAs World.covers_pending.recorded logger level message

/-- A copy from a local store changes the file tree at most. -/
theorem Repository.within_copyFrom (root : Path) (c : Coordinates) (destination : Path) :
    (copyFrom root c destination).Within World.OnlyTree := by
  refine (Files.within_isFile _).bind fun found => Action.Within.ite ?_ (Action.within_throw _)
  refine Action.Within.orFail ?_ _ _
  exact (Files.within_makeDirectoriesOf _).bind fun _ => Files.within_copy _ _

namespace BuildToolCopier

/-- What the copying by a build tool makes of the end of the tool. -/
def settle (c : Coordinates) (destination : Path) (outcome : Process.Outcome) : Action Unit := do
  if outcome.returnCode ≠ 0 then
    throw (.ofRun (Artifact.classify ("Failed to copy " ++ c.toString ++ ": " ++ complaint outcome) c))
  let copied := destination.parent.child (c.artifact ++ ".jar")
  if copied ≠ destination then Files.rename copied destination

/-- The failure to start a build tool. -/
def notStarted (m : BuildToolCopier) (c : Coordinates) (e : Failure) : Failure :=
  .because (.about .retrieval ("Failed to run " ++ m.executable ++ ": " ++ e.fault.text)
    (some (.text c.toString))) e

/-- The build tool is told, started, and its outcome settled. -/
theorem copy_eq (m : BuildToolCopier) (c : Coordinates) (destination : Path) :
    m.copy c destination = (do
      logAs Artifact.logger .debug ("Running: " ++ " ".intercalate (m.command c destination))
      let outcome ← (Process.run (m.command c destination) m.projectDir).orFail Fault.isOs
        (m.notStarted c)
      settle c destination outcome) := rfl

/-- How the tool ends that is started to copy an artifact, and the world that it leaves. -/
def ran (m : BuildToolCopier) (c : Coordinates) (destination : Path) (w : World) :
    Except Failure Process.Outcome × World :=
  (Process.run (m.command c destination) m.projectDir).runIn
    (w.recorded Artifact.logger .debug ("Running: " ++ " ".intercalate (m.command c destination)))

/-- A copying is settled by the end of the tool. A tool that the system does not start is a failed
retrieval. -/
theorem runIn_copy (m : BuildToolCopier) (c : Coordinates) (destination : Path) (w : World) :
    (m.copy c destination).runIn w = match m.ran c destination w with
      | (.ok outcome, v) => (settle c destination outcome).runIn v
      | (.error e, v) => (.error (if e.fault.isOs then m.notStarted c e else e), v) := by
  rw [copy_eq, Action.runIn_bind_ok (Action.runIn_logAs _ _ _ _), Action.runIn_bind,
    Action.runIn_orFail]
  unfold ran
  rcases (Process.run (m.command c destination) m.projectDir).runIn _ with ⟨e | outcome, v⟩ <;> rfl

/-- The file in which the tool leaves an artifact: beside the destination, and named for the
artifact. -/
def copied (c : Coordinates) (destination : Path) : Path :=
  destination.parent.child (c.artifact ++ ".jar")

/-- A tool that ends with zero has left the artifact in its file, which is renamed if that is not the
destination. With any other code it has failed. -/
theorem runIn_settle (c : Coordinates) (destination : Path) (outcome : Process.Outcome) (w : World) :
    (settle c destination outcome).runIn w =
      if outcome.returnCode ≠ 0 then
        (.error (.ofRun (Artifact.classify
          ("Failed to copy " ++ c.toString ++ ": " ++ complaint outcome) c)), w)
      else if copied c destination ≠ destination then
        (Files.rename (copied c destination) destination).runIn w
      else (.ok ⟨⟩, w) := by
  unfold settle copied
  split
  · rfl
  · dsimp only
    split <;> rfl

theorem within_settle (c : Coordinates) (destination : Path) (outcome : Process.Outcome) :
    (settle c destination outcome).Within World.OnlyTree := by
  have hrenamed : (if (destination.parent.child (c.artifact ++ ".jar")) ≠ destination then
      Files.rename (destination.parent.child (c.artifact ++ ".jar")) destination else pure () :
      Action Unit).Within World.OnlyTree :=
    (Files.within_rename _ _).ite (Action.within_pure _)
  exact Action.Within.ite ((Action.within_throw _).bind fun _ => hrenamed) hrenamed

end BuildToolCopier

section Covers

variable {R : World → World → Prop} [IsTrans World R]

/-- The build tool copies within every relation that covers what it does. -/
theorem BuildToolCopier.within_copy (hR : World.Covers R) (m : BuildToolCopier) (c : Coordinates)
    (destination : Path) : (m.copy c destination).Within R := by
  rw [copy_eq]
  refine (Action.within_logAs hR.recorded _ _ _).bind fun _ => ?_
  exact ((hR.run _ _).orFail _ _).bind fun outcome => (within_settle _ _ _).mono hR.onlyTree

/-- A repository copies within a relation, if a copying by other means does. -/
theorem Repository.within_copy (hR : World.Covers R) (r : Repository)
    (h : ∀ copy, r = .other copy → ∀ c destination, (copy c destination).Within R)
    (c : Coordinates) (destination : Path) : (r.copy c destination).Within R := by
  cases r with
  | localStore root => exact (Repository.within_copyFrom root c destination).mono hR.onlyTree
  | buildTool m => exact m.within_copy hR c destination
  | other copy => exact h copy rfl c destination

/-- The acquisition of the jar stays within a relation, if a copying by other means does. -/
theorem Acquirer.within_ensurePresent [Std.Refl R] (hR : World.Covers R) (a : Acquirer) (version : String)
    (h : ∀ copy, a.repository = .other copy →
      ∀ c destination, (copy c destination).Within R) :
    (a.ensurePresent version).Within R := by
  refine (Action.within_logAs hR.recorded _ _ _).bind fun _ => Action.Within.tryCatch ?_ fun e => ?_
  · exact (a.repository.within_copy hR h _ _).bind fun _ => Action.within_pure _
  · split
    · exact (Action.within_logAs hR.recorded _ _ _).bind fun _ => Action.within_pure _
    · exact Action.within_throw e

end Covers

/-! ## The outcome of an acquisition -/

namespace Acquirer

/-- The world in which the jar is copied. -/
def asked (version : String) (w : World) : World :=
  w.recorded Artifact.logger .info ("Retrieving Retrolambda " ++ version)

/-- An acquisition is a copying. A failure that says that nothing is published becomes an outcome
and is told. -/
theorem runIn_ensurePresent (a : Acquirer) (version : String) (w : World) :
    (a.ensurePresent version).runIn w
      = match (a.repository.copy (.retrolambda version) a.jarPath).runIn (asked version w) with
        | (.ok (), v) => (.ok .present, v)
        | (.error e, v) =>
          match notPublishedMessage? e.fault with
          | some message => (.ok .notPublished, v.recorded Artifact.logger .info message)
          | none => (.error e, v) := by
  unfold ensurePresent
  rw [Action.runIn_bind_ok (Action.runIn_logAs _ _ _ _), Action.runIn_tryCatch, Action.runIn_bind]
  unfold asked
  rcases (a.repository.copy (.retrolambda version) a.jarPath).runIn _ with ⟨e | ⟨⟩, v⟩
  · dsimp only
    cases notPublishedMessage? e.fault <;> rfl
  · rfl

/-- The jar is present exactly when the copying ends without a failure. -/
theorem ensurePresent_eq_present {a : Acquirer} {version : String} {w v : World} :
    (a.ensurePresent version).runIn w = (.ok .present, v) ↔
      (a.repository.copy (.retrolambda version) a.jarPath).runIn (asked version w) = (.ok (), v) := by
  rw [runIn_ensurePresent]
  rcases (a.repository.copy (.retrolambda version) a.jarPath).runIn (asked version w) with
    ⟨e | ⟨⟩, v⟩
  · dsimp only
    split <;> simp
  · simp

end Acquirer

end Downlevel
