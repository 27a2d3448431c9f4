import Downlevel.Proofs.ClasspathFile.Steps
import Downlevel.Proofs.Text.Paths
import Downlevel.Proofs.World.Frame
/-!
# What steps fail with

A step throws failures of a kind if it fails with no others, wherever it starts. Steps on files fail
with refusals of the system. The acquisition of the jar and the writing of a classpath file turn those
into faults of the run, and so does the start of a process, as long as a process fails with nothing
but a refusal to start.
-/
namespace Downlevel

namespace Action

variable {α β : Type} {P Q : Failure → Prop}

/-- Wherever a step starts, it fails with failures of a kind alone. -/
def Throws (P : Failure → Prop) (a : Action α) : Prop :=
  ∀ w e w', a.runIn w = (.error e, w') → P e

/-- A wider property of failures holds as well. -/
theorem Throws.mono {a : Action α} (h : a.Throws P) (hPQ : ∀ e, P e → Q e) : a.Throws Q :=
  fun w e w' hrun => hPQ e (h w e w' hrun)

theorem throws_pure (x : α) : (pure x : Action α).Throws P := fun _ _ _ h => nomatch h

theorem throws_get : (get : Action World).Throws P := fun _ _ _ h => nomatch h

theorem throws_set (w : World) : (set w : Action PUnit).Throws P := fun _ _ _ h => nomatch h

theorem throws_modify (f : World → World) : (modify f : Action PUnit).Throws P :=
  fun _ _ _ h => nomatch h

theorem throws_view (f : World → α) : (Action.view f).Throws P := fun _ _ _ h => nomatch h

theorem throws_logAs (logger : String) (level : Level) (message : String) :
    (logAs logger level message).Throws P := fun _ _ _ h => nomatch h

theorem throws_throw {e : Failure} (h : P e) : (throw e : Action α).Throws P := by
  intro w e' w' hrun
  cases hrun
  exact h

theorem throws_fail {f : Fault} (h : P ⟨f, []⟩) : (Action.fail f : Action α).Throws P :=
  throws_throw h

theorem throws_ofExcept {r : Except Failure α} (h : ∀ e, r = .error e → P e) :
    (Action.ofExcept r).Throws P := by
  intro w e w' hrun
  rw [runIn_ofExcept] at hrun
  exact h e (congrArg Prod.fst hrun)

/-- What each step can fail with the whole can fail with. -/
theorem Throws.bind {a : Action α} {f : α → Action β} (ha : a.Throws P)
    (hf : ∀ x, (f x).Throws P) : (a >>= f).Throws P := by
  intro w e w' hrun
  rw [runIn_bind] at hrun
  rcases hfirst : a.runIn w with ⟨e' | x, v⟩
  · rw [hfirst] at hrun
    cases hrun
    exact ha w e w' hfirst
  · rw [hfirst] at hrun
    exact hf x v e w' hrun

theorem Throws.ite {c : Prop} [Decidable c] {a b : Action α} (ha : a.Throws P)
    (hb : b.Throws P) : (if c then a else b).Throws P := by
  split
  · exact ha
  · exact hb

/-- What a step can fail with a list of steps can fail with. -/
theorem Throws.forM {f : β → Action PUnit} (hf : ∀ x, (f x).Throws P) (xs : List β) :
    (xs.forM f).Throws P := by
  induction xs with
  | nil => exact throws_pure _
  | cons x xs ih => exact (hf x).bind fun _ => ih

/-- A handler that turns the failures of a step into others. -/
theorem Throws.tryCatch {a : Action α} {f : Failure → Action α} (ha : a.Throws P)
    (hf : ∀ e, P e → (f e).Throws Q) : (tryCatch a f).Throws Q := by
  intro w e w' hrun
  rw [runIn_tryCatch] at hrun
  rcases hfirst : a.runIn w with ⟨e' | x, v⟩
  · rw [hfirst] at hrun
    exact hf e' (ha w e' v hfirst) v e w' hrun
  · rw [hfirst] at hrun
    cases hrun

/-- A failure is wrapped or passed on. -/
theorem Throws.orFail {a : Action α} (ha : a.Throws P) {test : Fault → Bool}
    {wrap : Failure → Failure} (hwrap : ∀ e, P e → test e.fault = true → Q (wrap e))
    (hpass : ∀ e, P e → test e.fault = false → Q e) : (a.orFail test wrap).Throws Q := by
  intro w e w' hrun
  rw [runIn_orFail] at hrun
  rcases hfirst : a.runIn w with ⟨e' | x, v⟩
  · rw [hfirst] at hrun
    dsimp only at hrun
    have hthrown := ha w e' v hfirst
    cases htest : test e'.fault with
    | true =>
      rw [htest, if_pos rfl] at hrun
      cases hrun
      exact hwrap e' hthrown htest
    | false =>
      rw [htest, if_neg Bool.false_ne_true] at hrun
      cases hrun
      exact hpass e hthrown htest
  · rw [hfirst] at hrun
    cases hrun

end Action

/-- A path has the null characters of the path above it. -/
theorem Path.hasNull_of_parent {p : Path} (h : p.parent.hasNull = true) : p.hasNull = true := by
  obtain ⟨name, hname, hnull⟩ := List.any_eq_true.mp h
  exact List.any_eq_true.mpr ⟨name, List.dropLast_subset _ hname, hnull⟩

namespace Failure

/-- A failure of a run: a fault of the kinds that a run makes known. -/
def IsRun (e : Failure) : Prop :=
  e.fault.isRun = true

/-- A refusal of the system. -/
def IsOs (e : Failure) : Prop :=
  e.fault.isOs = true

/-- The failure of a path or a command that the system is never asked about. -/
def ofNull : Failure :=
  ⟨.nullByte, []⟩

/-- A refusal of the system, or of a path that it is never asked about. -/
def IsRefusal (e : Failure) : Prop :=
  e.IsOs ∨ e = ofNull

/-- A refusal of the system, or of a path with a null character. -/
def IsRefusalOf (p : Path) (e : Failure) : Prop :=
  e.IsOs ∨ p.hasNull = true ∧ e = ofNull

theorem IsRefusalOf.isRefusal {p : Path} {e : Failure} (h : e.IsRefusalOf p) : e.IsRefusal :=
  h.imp_right And.right

/-- The system refuses a path without a null byte by an error of its own. -/
theorem IsRefusalOf.isOs {p : Path} {e : Failure} (h : e.IsRefusalOf p)
    (hnull : p.hasNull = false) : e.IsOs :=
  h.resolve_right fun h => Bool.false_ne_true (hnull.symm.trans h.1)

theorem IsRefusalOf.of_parent {p : Path} {e : Failure} (h : e.IsRefusalOf p.parent) :
    e.IsRefusalOf p :=
  h.imp_right fun h => ⟨Path.hasNull_of_parent h.1, h.2⟩

/-- The refusal of a look at a path that is no sign of absence. -/
def IsRefusedLook (e : Failure) : Prop :=
  ∃ (errno : Errno) (p : Path), errno.isAbsence = false ∧ p.hasNull = false ∧
    e = ⟨.os errno p.toString none, []⟩

theorem isRun_because (f : RunFault) (cause : Failure) : (because f cause).IsRun := rfl

theorem isRun_ofRun (f : RunFault) : (ofRun f).IsRun := rfl

end Failure

/-- Refusals of the system that are turned into faults of the run. -/
theorem Action.Throws.orRun {α : Type} {a : Action α} (ha : a.Throws Failure.IsRefusal)
    (f : Failure → RunFault) :
    (a.orFail Fault.isOs fun e => .because (f e) e).Throws fun e => e.IsRun ∨ e = .ofNull := by
  refine ha.orFail (fun e _ _ => Or.inl (Failure.isRun_because (f e) e)) ?_
  rintro e (hos | hnull) hnot
  · rw [Failure.IsOs, hnot] at hos
    cases hos
  · exact Or.inr hnull

/-! ## Files -/

namespace Files

/-- A path with a null byte is refused before the system is asked. -/
theorem failure_of_hasNull {p : Path} (h : p.hasNull = true) (errno : Errno)
    (target : Option Path := none) : failure errno p target = .ofNull := by
  unfold failure
  rw [h, Bool.true_or, if_pos rfl]
  rfl

theorem isRefusal_failure (errno : Errno) (p : Path) (target : Option Path := none) :
    (failure errno p target).IsRefusal := by
  unfold failure
  split
  · exact Or.inr rfl
  · exact Or.inl rfl

theorem isRefusalOf_failure (errno : Errno) (p : Path) : (failure errno p).IsRefusalOf p := by
  rw [failure, Option.any_none, Bool.or_false, Option.map_none]
  split
  · rename_i hnull
    exact Or.inr ⟨hnull, rfl⟩
  · exact Or.inl rfl

/-- What the file tree refuses is a refusal of the path. -/
theorem throws_refused {α : Type} (p : Path) (r : Except Errno α) :
    (Action.ofExcept (refused p r)).Throws (Failure.IsRefusalOf p) := by
  apply Action.throws_ofExcept
  intro e h
  cases r with
  | ok x => cases h
  | error errno =>
    cases h
    exact isRefusalOf_failure errno p

theorem throws_read (p : Path) : (read p).Throws (Failure.IsRefusalOf p) :=
  Action.throws_get.bind fun _ => throws_refused _ _

/-- Writing fails with a refusal of the path, also if it breaks off. -/
theorem throws_writeOr {fault : Break → Fault} (h : ∀ b, (fault b).isOs = true) (p : Path)
    (bytes : List UInt8) : (writeOr fault p bytes).Throws (Failure.IsRefusalOf p) := by
  intro w e w' hrun
  rw [runIn_writeOr] at hrun
  split at hrun
  · cases hrun
    exact isRefusalOf_failure _ p
  · split at hrun
    · cases hrun
    · rename_i b _
      cases hrun
      exact Or.inl (h b)

/-- A look at a path is refused for no sign of absence, and not for a path that no node can have. -/
theorem isRefusedLook_of_look {t : FileTree} {cwd : Place} {p : Path} {errno : Errno}
    (h : t.look cwd p = .error errno) : (failure errno p).IsRefusedLook := by
  have habsent : errno.isAbsence = false := by
    unfold FileTree.look at h
    split at h
    · cases h
    · split at h
      · cases h
      · rename_i hnot
        cases h
        exact Bool.eq_false_iff.mpr hnot
  have hnull : p.hasNull = false := by
    by_contra hp
    rw [Bool.not_eq_false] at hp
    rw [FileTree.look, FileTree.status, FileTree.locate_of_hasNull hp] at h
    cases h
  refine ⟨errno, p, habsent, hnull, ?_⟩
  rw [failure, hnull, Option.any_none, Bool.or_false, if_neg Bool.false_ne_true, Option.map_none]

/-- So a step that asks what a look at a path finds fails with nothing else. -/
theorem throws_look {f : Option Node → Bool} (p : Path) :
    (get >>= fun w => Action.ofExcept (refused p ((w.tree.look w.cwd p).map f))).Throws
      Failure.IsRefusedLook := by
  refine Action.throws_get.bind fun w => Action.throws_ofExcept fun e h => ?_
  cases hlook : w.tree.look w.cwd p with
  | ok node =>
    rw [hlook] at h
    cases h
  | error errno =>
    rw [hlook] at h
    cases h
    exact isRefusedLook_of_look hlook

theorem throws_holds (p : Path) : (holds p).Throws Failure.IsRefusedLook :=
  throws_look p

theorem throws_isFile (p : Path) : (isFile p).Throws Failure.IsRefusedLook :=
  throws_look p

theorem throws_unlessDirectory (errno : Errno) (p : Path) :
    (unlessDirectory errno p).Throws (Failure.IsRefusalOf p) := by
  refine Action.throws_get.bind fun w => (throws_refused _ _).bind fun found => ?_
  exact (Action.throws_pure ()).ite (Action.throws_throw (isRefusalOf_failure errno p))

/-- Making directories fails with a refusal of the path. -/
theorem throws_makeDirectories (fuel : Nat) (p : Path) :
    (makeDirectories fuel p).Throws (Failure.IsRefusalOf p) := by
  have hrefused (errno : Errno) (p : Path) :
      (throw (failure errno p) : Action Unit).Throws (Failure.IsRefusalOf p) :=
    Action.throws_throw (isRefusalOf_failure errno p)
  induction fuel generalizing p with
  | zero =>
    unfold makeDirectories
    refine Action.throws_get.bind fun w => ?_
    split
    · exact Action.throws_set _
    · exact (hrefused _ _).ite (hrefused _ _)
    · exact throws_unlessDirectory _ p
  | succ fuel ih =>
    unfold makeDirectories
    refine Action.throws_get.bind fun w => ?_
    split
    · exact Action.throws_set _
    · -- The directory above is made first, and a refusal of it is one of this path.
      refine (hrefused _ _).ite ?_
      refine ((ih p.parent).mono fun _ h => h.of_parent).bind fun _ => ?_
      refine Action.throws_get.bind fun w' => ?_
      split
      · exact Action.throws_set _
      · exact throws_unlessDirectory _ p
    · exact throws_unlessDirectory _ p

/-- A copy that breaks off is an error of the system. -/
theorem isOs_copyFault (source target : Path) (b : Break) :
    (copyFault source target b).isOs = true := by
  unfold copyFault
  split
  · rfl
  · exact isOs_unnamed b.errno

/-- A copy fails with a refusal of one of its two paths. -/
theorem throws_copy (source target : Path) : (copy source target).Throws fun e =>
    e.IsRefusalOf source ∨ e.IsRefusalOf target := by
  have hcopied : (read source >>= fun bytes =>
      writeOr (copyFault source target) target bytes).Throws fun e =>
        e.IsRefusalOf source ∨ e.IsRefusalOf target := by
    refine ((throws_read source).mono fun _ => Or.inl).bind fun bytes => ?_
    exact (throws_writeOr (isOs_copyFault source target) target _).mono fun _ => Or.inr
  have hsame : ∀ message, Failure.IsRefusalOf source ⟨.foreign "SameFileError" message, []⟩ :=
    fun _ => Or.inl rfl
  refine Action.throws_get.bind fun w => ?_
  dsimp only
  split
  · split
    · exact (Action.throws_fail (Or.inl (hsame _))).bind fun _ => hcopied
    · exact hcopied
  · exact hcopied

end Files

/-! ## Classpath files -/

namespace ClasspathFile

/-- Making a file under a free name fails with a refusal. -/
theorem throws_create (directory : Path) (attempts : Nat) :
    (create directory attempts).Throws Failure.IsRefusal := by
  induction attempts with
  | zero => exact Action.throws_fail (Or.inl rfl)
  | succ attempts ih =>
    unfold create
    refine Action.throws_get.bind fun w => (Action.throws_set _).bind fun _ => ?_
    dsimp only
    split
    · exact (Action.throws_modify _).bind fun _ => Action.throws_pure _
    · exact ih
    · exact Action.throws_throw (Files.isRefusal_failure _ _)

/-- Where there is no directory for temporary files, that is a refusal. -/
theorem isRefusal_of_directoryIn {w : World} {directory : Option Path} {e : Failure}
    (h : directoryIn w directory = .error e) : e.IsRefusal := by
  unfold directoryIn at h
  split at h
  · cases h
  · cases h
    exact Or.inl rfl

/-- Making a classpath file fails with a fault of the run, or for a null byte. -/
theorem throws_make (directory : Option Path) :
    (make directory).Throws fun e => e.IsRun ∨ e = .ofNull := by
  refine Action.throws_get.bind fun w => ?_
  refine Action.Throws.bind (Action.Throws.orRun ?_ _) fun p => ?_
  · exact (Action.throws_ofExcept fun e => isRefusal_of_directoryIn).bind fun _ => throws_create _ _
  · exact (Action.throws_modify _).bind fun _ => Action.throws_pure _

/-- Deleting a classpath file does not fail. -/
theorem throws_delete {P : Failure → Prop} (p : Path) : (delete p).Throws P := by
  intro w e w' hrun
  rcases runIn_delete p w with ⟨tree, -, hdelete, -⟩ | ⟨e', -, hdelete⟩
  · cases hdelete.symm.trans hrun
  · cases hdelete.symm.trans hrun

/-- A classpath file fails to be written with a fault of the run, or for its path. -/
theorem throws_write (entries : List Text.CodePoints) (directory : Option Path) :
    (write entries directory).Throws fun e => e.IsRun ∨ e = .ofNull := by
  have hfill : ∀ p, (fill p entries).Throws fun e =>
      (e.fault.isOs || e.fault.isUnicode) = true ∨ e = .ofNull := by
    intro p
    unfold fill
    split
    · rename_i run _
      apply Action.throws_fail
      rw [isUnicode_encodingFault, Bool.or_true]
      exact Or.inl rfl
    · refine (Files.throws_writeOr (fun b => Files.isOs_unnamed b.errno) p _).mono fun e h => ?_
      refine h.isRefusal.imp_left fun hos => ?_
      rw [show e.fault.isOs = true from hos, Bool.true_or]
  -- What the filling fails with is turned into a fault of the run, but for a null byte.
  refine (throws_make directory).bind fun p => ?_
  refine Action.Throws.bind ((hfill p).tryCatch fun e h => ?_) fun _ => Action.throws_pure _
  split
  · exact (throws_delete p).bind fun _ => Action.throws_throw (Or.inl (Failure.isRun_because _ _))
  · rename_i hnot
    exact Action.throws_throw (Or.inr (h.resolve_left hnot))

end ClasspathFile

/-! ## Processes -/

/-- Processes are started in the order of their scripts, which are used up, on the same machine. -/
structure World.Consumes (w w' : World) : Prop where
  scripts : w'.scripts <:+ w.scripts
  machine : w'.machine = w.machine

instance : Std.Refl World.Consumes :=
  ⟨fun _ => ⟨List.suffix_rfl, rfl⟩⟩

theorem World.Consumes.trans {w w' w'' : World} (h : w.Consumes w') (h' : w'.Consumes w'') :
    w.Consumes w'' :=
  ⟨h'.scripts.trans h.scripts, h'.machine.trans h.machine⟩

instance : IsTrans World World.Consumes :=
  ⟨fun _ _ _ => World.Consumes.trans⟩

/-- What a process that is to be started can fail with, beside that its command is not there: its words
may be none, the machine may not start it, and it may end without an outcome. -/
inductive World.ProcessFails (w : World) : Failure → Prop
  | null : w.ProcessFails .ofNull
  | notStarted {t : FileTree} {cwd : Place} {command : List String} {directory : Option Path}
      {fault : Fault} (h : w.machine.startFault t cwd command directory = some fault) :
      w.ProcessFails ⟨fault, []⟩
  | noOutcome {script : ProcessScript} {e : Failure} (hscript : script ∈ w.scripts)
      (h : Process.outcomeOf script = .error e) : w.ProcessFails e

/-- A process that fails later on could have failed before. -/
theorem World.ProcessFails.of_consumes {w w' : World} {e : Failure} (h : w'.ProcessFails e)
    (hw : w.Consumes w') : w.ProcessFails e := by
  cases h with
  | null => exact .null
  | notStarted h => exact .notStarted (hw.machine ▸ h)
  | noOutcome hscript h => exact .noOutcome (hw.scripts.subset hscript) h

theorem World.OnlyRecorded.consumes (w w' : World) (h : w.OnlyRecorded w') : w.Consumes w' := by
  rw [h.rest]
  exact ⟨List.suffix_rfl, rfl⟩

theorem World.OnlyTree.consumes (w w' : World) (h : w.OnlyTree w') : w.Consumes w' := by
  rw [h]
  exact ⟨List.suffix_rfl, rfl⟩

namespace Process

/-- A process uses up one script at most. -/
theorem within_run_consumes (command : List String) (directory : Option Path) :
    (run command directory).Within World.Consumes := by
  intro w
  refine ⟨?_, (within_run (g := World.machine) (fun _ _ _ _ _ _ => rfl) command directory w).symm ▸ rfl⟩
  rw [runIn_run]
  split
  · exact List.suffix_rfl
  · split
    · exact List.suffix_rfl
    · rename_i script rest hscripts
      dsimp only
      rw [onlyTree_after script, hscripts]
      exact List.suffix_cons script rest

/-- A process fails with an error of the system, or as its script says. -/
theorem fails_of_run {command : List String} {directory : Option Path} {w w' : World} {e : Failure}
    (h : (run command directory).runIn w = (.error e, w')) : e.IsOs ∨ w.ProcessFails e := by
  rw [runIn_run] at h
  split at h
  · rename_i fault hfault
    cases h
    unfold startFault? at hfault
    split at hfault
    · cases hfault
      exact Or.inr .null
    · exact Or.inr (.notStarted hfault)
  · split at h
    · cases h
      exact Or.inl rfl
    · rename_i script rest hscripts
      exact Or.inr (.noOutcome (hscripts ▸ List.mem_cons_self) (Prod.mk.inj h).1)

end Process

/-- Writing a classpath file uses up no script. -/
theorem ClasspathFile.within_write_consumes (entries : List Text.CodePoints)
    (directory : Option Path) : (write entries directory).Within World.Consumes :=
  within_write (fun _ _ _ _ _ => ⟨List.suffix_rfl, rfl⟩) entries directory

/-- All that a copying does uses up scripts at most. -/
theorem World.covers_consumes : World.Covers World.Consumes where
  recorded := fun w logger level message =>
    (World.onlyRecorded_recorded w logger level message).consumes
  onlyTree := World.OnlyTree.consumes
  run := Process.within_run_consumes

/-! ## Acquisition -/

/-- Copying out of a directory of artifacts fails with a fault of the run, unless a look at the artifact
is refused or a path is none. -/
theorem Repository.throws_copyFrom (root : Path) (c : Coordinates) (destination : Path) :
    (copyFrom root c destination).Throws fun e => e.IsRun ∨ e = .ofNull ∨ e.IsRefusedLook := by
  refine Action.Throws.bind ((Files.throws_isFile _).mono fun e h => Or.inr (Or.inr h)) fun found => ?_
  refine Action.Throws.ite ?_ (Action.throws_throw (Or.inl rfl))
  refine Action.Throws.mono (Action.Throws.orRun ?_ _) fun e h => h.imp_right Or.inl
  refine ((Files.throws_makeDirectories _ _).mono fun _ h => h.isRefusal).bind fun _ => ?_
  exact (Files.throws_copy _ _).mono fun _ h => h.elim (·.isRefusal) (·.isRefusal)

/-- The directory of the jar. -/
theorem Acquirer.parent_jarPath (a : Acquirer) :
    a.jarPath.parent = a.buildDirectory.child "retrolambda" := by
  have hchild : ∀ p : Path, p.child "retrolambda.jar" = ⟨p.anchor, p.names ++ ["retrolambda.jar"]⟩ :=
    Path.child_of_name (by decide)
  rw [jarPath, hchild, Path.parent]
  dsimp only
  rw [List.dropLast_concat]

/-- The jar has the name under which a build tool copies it, so that it is not renamed. -/
theorem Acquirer.child_parent_jarPath (a : Acquirer) (version : String) :
    a.jarPath.parent.child ((Coordinates.retrolambda version).artifact ++ ".jar") = a.jarPath := by
  rw [parent_jarPath]
  rfl

namespace BuildToolCopier

variable {m : BuildToolCopier} {w w' : World} {e : Failure}

/-- The jar is where the tool leaves it, so that the tool has brought it to its place if it ends with
zero, and has failed with any other code. -/
theorem runIn_copy_jar (m : BuildToolCopier) (a : Acquirer) (version : String) (w : World) :
    (m.copy (.retrolambda version) a.jarPath).runIn w
      = match m.ran (.retrolambda version) a.jarPath w with
        | (.ok outcome, v) =>
          if outcome.returnCode = 0 then (.ok ⟨⟩, v)
          else (.error (.ofRun (Artifact.classify ("Failed to copy "
            ++ (Coordinates.retrolambda version).toString ++ ": " ++ complaint outcome)
            (.retrolambda version))), v)
        | (.error e, v) =>
          (.error (if e.fault.isOs then m.notStarted (.retrolambda version) e else e), v) := by
  rw [runIn_copy]
  rcases m.ran (.retrolambda version) a.jarPath w with ⟨e | outcome, v⟩
  · rfl
  · dsimp only
    rw [runIn_settle, copied, a.child_parent_jarPath, if_neg (not_not_intro rfl), ite_not]

/-- The jar fails to be got by a tool with a fault of the run, or as the process of the tool fails for
another reason than a refusal of the system. -/
theorem fails_of_copy {a : Acquirer} {version : String}
    (h : (m.copy (.retrolambda version) a.jarPath).runIn w = (.error e, w')) :
    e.IsRun ∨ w.ProcessFails e ∧ ¬ e.IsOs := by
  rw [runIn_copy_jar] at h
  rcases hran : m.ran (.retrolambda version) a.jarPath w with ⟨e' | outcome, v⟩
  · rw [hran] at h
    dsimp only at h
    split at h
    · cases h
      exact Or.inl rfl
    · rename_i hos
      cases h
      have hfails := (Process.fails_of_run hran).resolve_left hos
      exact Or.inr ⟨hfails.of_consumes (World.covers_consumes.recorded _ _ _ _), hos⟩
  · rw [hran] at h
    dsimp only at h
    split at h
    · cases h
    · cases h
      exact Or.inl (Failure.isRun_ofRun _)

end BuildToolCopier

/-- What the getting of the jar fails with: a fault of the run, a refused look, a path that is none, the
process of a build tool, or whatever a copying by other means fails with. -/
inductive Acquirer.FailsWith (a : Acquirer) (w : World) (e : Failure) : Prop
  | run (h : e.IsRun)
  | null (h : e = .ofNull)
  | look (h : e.IsRefusedLook)
  | process (h : w.ProcessFails e) (hos : ¬ e.IsOs)
  | copy {copy : Coordinates → Path → Action Unit} {c : Coordinates} {destination : Path}
      {v v' : World} (hother : a.repository = .other copy)
      (h : (copy c destination).runIn v = (.error e, v'))

/-- An acquisition fails in one of the known ways. -/
theorem Acquirer.fails_of_ensurePresent {a : Acquirer} {version : String} {w w' : World}
    {e : Failure} (h : (a.ensurePresent version).runIn w = (.error e, w')) : a.FailsWith w e := by
  rw [runIn_ensurePresent] at h
  rcases hrun : (a.repository.copy (.retrolambda version) a.jarPath).runIn (asked version w) with
    ⟨e' | ⟨⟩, v⟩
  · rw [hrun] at h
    dsimp only at h
    split at h
    · cases h
    · cases h
      -- Each kind of repository has its own failures.
      cases hrepository : a.repository with
      | localStore root =>
        rw [hrepository] at hrun
        rcases Repository.throws_copyFrom _ _ _ _ _ _ hrun with hfault | hnull | hlook
        · exact .run hfault
        · exact .null hnull
        · exact .look hlook
      | buildTool m =>
        rw [hrepository] at hrun
        rcases BuildToolCopier.fails_of_copy hrun with hfault | ⟨hprocess, hos⟩
        · exact .run hfault
        · exact .process (hprocess.of_consumes (World.covers_consumes.recorded _ _ _ _)) hos
      | other copy =>
        rw [hrepository] at hrun
        exact .copy hrepository hrun
  · rw [hrun] at h
    cases h

end Downlevel
