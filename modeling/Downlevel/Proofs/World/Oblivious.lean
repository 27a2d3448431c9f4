import Downlevel.ClasspathFile
import Downlevel.Proofs.World.Frame
/-!
# Steps that do not look back

The journal and the error stream are written and never read. A step is oblivious if it goes the same
way in a world that has told more before: it ends with the same result, and what it tells comes after
what was told. Messages are oblivious, and so are all steps on files, on classpath files and on
processes.
-/
namespace Downlevel

namespace World

/-- A world in which more was told before. -/
def preceded (w : World) (records : List (String × String)) (text : String) : World :=
  { w with
    journal := records ++ w.journal
    errorStream := text ++ w.errorStream }

variable {w : World} {records : List (String × String)} {text : String}

theorem lost_preceded (r : Log.Record) (w : World) (records : List (String × String))
    (text : String) : (w.preceded records text).lost r = (w.lost r).preceded records text := by
  show ({ w.preceded records text with
    errorStream := text ++ w.errorStream ++ w.machine.logFault r } : World) = _
  rw [String.append_assoc]
  rfl

theorem deliver_preceded (r : Log.Record) (handler : Log.Handler) (w : World)
    (records : List (String × String)) (text : String) :
    (w.preceded records text).deliver r handler = (w.deliver r handler).preceded records text := by
  cases handler with
  | stream pattern =>
    rw [deliver, deliver]
    cases Log.line? pattern r with
    | none => exact lost_preceded r w records text
    | some line => simp only [preceded, String.append_assoc]
  | display => rfl
  | file id least =>
    rw [deliver, deliver]
    split
    · split
      · rfl
      · exact lost_preceded r w records text
    · rfl

theorem foldl_deliver_preceded (r : Log.Record) (handlers : List Log.Handler) (w : World)
    (records : List (String × String)) (text : String) :
    handlers.foldl (deliver r) (w.preceded records text)
      = (handlers.foldl (deliver r) w).preceded records text := by
  induction handlers generalizing w with
  | nil => rfl
  | cons handler handlers ih => rw [List.foldl_cons, List.foldl_cons, deliver_preceded, ih]

/-- A message comes after what was told before. -/
theorem recorded_preceded (logger : String) (level : Level) (message : String) (w : World)
    (records : List (String × String)) (text : String) :
    (w.preceded records text).recorded logger level message
      = (w.recorded logger level message).preceded records text := by
  let told : String := Text.printed (Text.codePoints message)
  have hjournal : (if Log.inFamily logger then { w.preceded records text with
        journal := (w.preceded records text).journal ++ [(level.name, told)] }
      else w.preceded records text)
      = (if Log.inFamily logger then { w with journal := w.journal ++ [(level.name, told)] }
        else w).preceded records text := by
    split
    · simp only [preceded, List.append_assoc]
    · rfl
  unfold recorded recordedPoints
  show (if w.log.records level then _ else _) = _
  split
  · dsimp only
    rw [hjournal]
    -- From here on only the handlers matter, which write to the end.
    generalize (if Log.inFamily logger then
      { w with journal := w.journal ++ [(level.name, told)] } else w) = w₁
    show (if w₁.log.handlers.isEmpty && !Log.inFamily logger &&
      Level.warning.number ≤ level.number then _ else _) = _
    split
    · simp only [preceded, String.append_assoc]
    · exact foldl_deliver_preceded _ _ _ _ _
  · rfl

end World

namespace Action

variable {α β : Type}

/-! ## Putting steps together -/

/-- Wherever a step starts, it goes the same way if more was told before. -/
def Oblivious (a : Action α) : Prop :=
  ∀ records text w, a.runIn (World.preceded w records text)
    = ((a.runIn w).1, (a.runIn w).2.preceded records text)

theorem oblivious_pure (x : α) : (pure x : Action α).Oblivious := fun _ _ _ => rfl

theorem oblivious_throw (e : Failure) : (throw e : Action α).Oblivious := fun _ _ _ => rfl

theorem oblivious_fail (f : Fault) : (Action.fail f : Action α).Oblivious := fun _ _ _ => rfl

theorem oblivious_ofExcept (r : Except Failure α) : (Action.ofExcept r).Oblivious := by
  cases r with
  | ok x => exact oblivious_pure x
  | error e => exact oblivious_throw e

/-- What is read off the world is not what was told. -/
theorem oblivious_view {f : World → α}
    (h : ∀ records text w, f (World.preceded w records text) = f w) :
    (Action.view f).Oblivious := by
  intro records text w
  rw [runIn_view, runIn_view, h]

theorem oblivious_modify {f : World → World}
    (h : ∀ records text w, f (World.preceded w records text) = (f w).preceded records text) :
    (modify f : Action PUnit).Oblivious := by
  intro records text w
  rw [runIn_modify, runIn_modify, h]

theorem oblivious_logAs (logger : String) (level : Level) (message : String) :
    (logAs logger level message).Oblivious :=
  oblivious_modify fun records text w => w.recorded_preceded logger level message records text

/-- What is done with the world that was got is done in that world. -/
theorem oblivious_get_bind {f : World → Action α}
    (h : ∀ records text w, (f (w.preceded records text)).runIn (w.preceded records text)
      = (((f w).runIn w).1, ((f w).runIn w).2.preceded records text)) :
    (get >>= f).Oblivious := by
  intro records text w
  rw [runIn_bind_ok (runIn_get _), runIn_bind_ok (runIn_get _)]
  exact h records text w

/-- What is done without the world that was got, but for what is read off it. -/
theorem oblivious_get_bind_of_congr {f : World → Action α}
    (hf : ∀ records text w, f (World.preceded w records text) = f w) (h : ∀ w, (f w).Oblivious) :
    (get >>= f).Oblivious :=
  oblivious_get_bind fun records text w => by rw [hf, h]

/-- What is oblivious in each step is oblivious as a whole. -/
theorem Oblivious.bind {a : Action α} {f : α → Action β} (ha : a.Oblivious)
    (hf : ∀ x, (f x).Oblivious) : (a >>= f).Oblivious := by
  intro records text w
  rw [runIn_bind, runIn_bind, ha]
  rcases a.runIn w with ⟨e | x, w'⟩
  · rfl
  · exact hf x records text w'

/-- A failure is caught alike, whatever was told before. -/
theorem Oblivious.tryCatch {a : Action α} {f : Failure → Action α} (ha : a.Oblivious)
    (hf : ∀ e, (f e).Oblivious) : (tryCatch a f).Oblivious := by
  intro records text w
  rw [runIn_tryCatch, runIn_tryCatch, ha]
  rcases a.runIn w with ⟨e | x, w'⟩
  · exact hf e records text w'
  · rfl

/-- A failure is wrapped alike, whatever was told before. -/
theorem Oblivious.orFail {a : Action α} (ha : a.Oblivious) (test : Fault → Bool)
    (wrap : Failure → Failure) : (a.orFail test wrap).Oblivious := by
  intro records text w
  rw [runIn_orFail, runIn_orFail, ha]
  rcases a.runIn w with ⟨e | x, w'⟩ <;> rfl

theorem Oblivious.ite {c : Prop} [Decidable c] {a b : Action α} (ha : a.Oblivious)
    (hb : b.Oblivious) : (if c then a else b).Oblivious := by
  split
  · exact ha
  · exact hb

/-- What is oblivious for each is oblivious for a list. -/
theorem Oblivious.forM {f : β → Action PUnit} (hf : ∀ x, (f x).Oblivious) (xs : List β) :
    (xs.forM f).Oblivious := by
  induction xs with
  | nil => exact oblivious_pure _
  | cons x xs ih => exact (hf x).bind fun _ => ih

end Action

open Downlevel.Action

/-! ## Files -/

namespace Files

theorem oblivious_read (p : Path) : (read p).Oblivious :=
  oblivious_get_bind_of_congr (fun _ _ _ => rfl) fun _ => oblivious_ofExcept _

theorem oblivious_isFile (p : Path) : (isFile p).Oblivious :=
  oblivious_get_bind_of_congr (fun _ _ _ => rfl) fun _ => oblivious_ofExcept _

theorem oblivious_holds (p : Path) : (holds p).Oblivious :=
  oblivious_get_bind_of_congr (fun _ _ _ => rfl) fun _ => oblivious_ofExcept _

theorem oblivious_writeOr (fault : Break → Fault) (p : Path) (bytes : List UInt8) :
    (writeOr fault p bytes).Oblivious := by
  intro records text w
  have hsame : (w.preceded records text).tree.write (w.preceded records text).cwd
      (w.preceded records text).freshId p (kept bytes (nextBreak (w.preceded records text)))
        = w.tree.write w.cwd w.freshId p (kept bytes (nextBreak w)) := rfl
  rw [runIn_writeOr, runIn_writeOr, hsame]
  cases w.tree.write w.cwd w.freshId p (kept bytes (nextBreak w)) <;> rfl

theorem oblivious_write (p : Path) (bytes : List UInt8) : (write p bytes).Oblivious :=
  oblivious_writeOr _ p bytes

theorem oblivious_rename (p q : Path) : (rename p q).Oblivious := by
  refine oblivious_get_bind fun records text w => ?_
  dsimp only [World.preceded]
  cases w.tree.rename w.cwd p q <;> rfl

theorem oblivious_discard (p : Path) : (discard p).Oblivious := by
  refine oblivious_get_bind fun records text w => ?_
  dsimp only [World.preceded]
  cases w.tree.remove w.cwd p with
  | ok tree => rfl
  | error errno =>
    dsimp only
    split <;> rfl

theorem oblivious_unlessDirectory (errno : Errno) (p : Path) :
    (unlessDirectory errno p).Oblivious :=
  oblivious_get_bind_of_congr (fun _ _ _ => rfl) fun _ => (oblivious_ofExcept _).bind fun _ =>
    (oblivious_pure ()).ite (oblivious_throw _)

theorem oblivious_makeDirectories (fuel : Nat) (p : Path) : (makeDirectories fuel p).Oblivious := by
  induction fuel generalizing p with
  | zero =>
    unfold makeDirectories
    refine oblivious_get_bind fun records text w => ?_
    dsimp only [World.preceded]
    split
    · rfl
    · exact ((oblivious_throw _).ite (oblivious_throw _)) records text w
    · exact oblivious_unlessDirectory _ p records text w
  | succ fuel ih =>
    unfold makeDirectories
    refine oblivious_get_bind fun records text w => ?_
    dsimp only [World.preceded]
    split
    · rfl
    · refine ((oblivious_throw _).ite ?_) records text w
      -- The directories above are made first, and then the directory itself.
      refine (ih p.parent).bind fun _ => oblivious_get_bind fun records text w' => ?_
      dsimp only [World.preceded]
      split
      · rfl
      · exact oblivious_unlessDirectory _ p records text w'
    · exact oblivious_unlessDirectory _ p records text w

theorem oblivious_copy (source target : Path) : (copy source target).Oblivious := by
  have hcopied : (read source >>= fun bytes =>
      writeOr (copyFault source target) target bytes).Oblivious :=
    (oblivious_read source).bind fun bytes => oblivious_writeOr _ target bytes
  refine oblivious_get_bind_of_congr (fun _ _ _ => rfl) fun w => ?_
  dsimp only
  split
  · split
    · exact (oblivious_fail _).bind fun _ => hcopied
    · exact hcopied
  · exact hcopied

end Files

/-! ## Classpath files -/

namespace ClasspathFile

theorem oblivious_create (directory : Path) (attempts : Nat) :
    (create directory attempts).Oblivious := by
  induction attempts with
  | zero => exact oblivious_fail _
  | succ attempts ih =>
    unfold create
    refine oblivious_get_bind fun records text w => ?_
    rw [Action.runIn_bind_ok (Action.runIn_set _ _), Action.runIn_bind_ok (Action.runIn_set _ _)]
    dsimp only [World.preceded, World.freshId]
    generalize w.tree.create w.cwd _ _ = created
    cases created with
    | ok tree => rfl
    | error errno =>
      cases errno with
      | «exists» => exact ih records text { w with temporaryFiles := w.temporaryFiles + 1 }
      | _ => rfl

theorem oblivious_make (directory : Option Path) : (make directory).Oblivious := by
  refine oblivious_get_bind fun records text w => ?_
  refine Oblivious.bind (Oblivious.orFail ?_ _ _) (fun p => ?_) records text w
  · exact (oblivious_ofExcept _).bind fun _ => oblivious_create _ _
  · exact (oblivious_modify fun _ _ _ => rfl).bind fun _ => oblivious_pure p

theorem oblivious_delete (p : Path) : (delete p).Oblivious := by
  refine oblivious_get_bind fun records text w => ?_
  rw [Files.oblivious_discard]
  rcases (Files.discard p).runIn w with ⟨e | ⟨⟩, w'⟩
  · dsimp only
    rw [Action.runIn_bind_ok (Action.runIn_set _ _), Action.runIn_bind_ok (Action.runIn_set _ _)]
    exact ((oblivious_logAs _ _ _).bind fun _ => oblivious_pure false) records text w'
  · rfl

theorem oblivious_fill (p : Path) (entries : List Text.CodePoints) : (fill p entries).Oblivious := by
  unfold fill
  split
  · exact oblivious_fail _
  · exact Files.oblivious_write _ _

theorem oblivious_write (entries : List Text.CodePoints) (directory : Option Path) :
    (write entries directory).Oblivious := by
  refine (oblivious_make directory).bind fun p => ?_
  refine Oblivious.bind ((oblivious_fill p entries).tryCatch fun e => ?_) fun _ => oblivious_pure p
  exact Oblivious.ite ((oblivious_delete p).bind fun _ => oblivious_throw _) (oblivious_throw e)

end ClasspathFile

/-! ## Processes -/

namespace Process

variable {records : List (String × String)} {text : String}

theorem removed_preceded (w : World) (s : String) :
    (w.preceded records text).removed s = (w.removed s).preceded records text := by
  unfold World.removed
  dsimp only [World.preceded]
  cases w.tree.locate w.cwd false (Path.ofString s) <;> rfl

theorem placed_preceded (w : World) (s : String) (spec : FileSpec) :
    (w.preceded records text).placed s spec = (w.placed s spec).preceded records text := by
  unfold World.placed
  dsimp only [World.preceded]
  cases spec with
  | directory =>
    dsimp only
    split <;> rfl
  | link target => rfl
  | file bytes executable => rfl

/-- What a process does to the files has nothing to do with what was told. -/
theorem after_preceded (script : ProcessScript) (w : World)
    (records : List (String × String)) (text : String) :
    after script (w.preceded records text) = (after script w).preceded records text := by
  have hremoved : ∀ (paths : List String) (w : World),
      paths.foldl World.removed (w.preceded records text)
        = (paths.foldl World.removed w).preceded records text := by
    intro paths
    induction paths with
    | nil => exact fun _ => rfl
    | cons s paths ih =>
      intro w
      rw [List.foldl_cons, List.foldl_cons, removed_preceded, ih]
  have hplaced : ∀ (specs : List (String × FileSpec)) (w : World),
      specs.foldl (fun w e => w.placed e.1 e.2) (w.preceded records text)
        = (specs.foldl (fun w e => w.placed e.1 e.2) w).preceded records text := by
    intro specs
    induction specs with
    | nil => exact fun _ => rfl
    | cons e specs ih =>
      intro w
      rw [List.foldl_cons, List.foldl_cons, placed_preceded, ih]
  -- A process removes and places files, and both do not depend on what was told.
  unfold after
  rw [← hplaced, ← hremoved]
  rfl

/-- A process is noted with what the command names, and then does what is written. -/
theorem oblivious_run (command : List String) (directory : Option Path) :
    (run command directory).Oblivious := by
  intro records text w
  have hfault : startFault? (w.preceded records text) command directory
      = startFault? w command directory := rfl
  have hscripts : (w.preceded records text).scripts = w.scripts := rfl
  rw [runIn_run, runIn_run, hfault, hscripts]
  cases startFault? w command directory with
  | some fault => rfl
  | none =>
    dsimp only
    cases w.scripts with
    | nil => rfl
    | cons script rest =>
      exact Prod.ext rfl
        (after_preceded script { noted command directory w with scripts := rest } records text)

end Process

end Downlevel
