import Downlevel.Proofs.ClasspathFile.Steps
/-!
# Sessions

A session is a program over the operations on classpath files, with others at work in between. It
goes on by the result of each operation, and blocks can be nested and can fail. Its run is recorded:
after each step that makes a file, deletes one, or leaves the pending files to others, the world is
noted. The record has no influence on the run. A filling of a file may do anything except to the
pending files, and filling it with entries is one such (`write_eq_writeBy`).
-/
namespace Downlevel

/-! ## Results as values -/

/-- A step that gives the result of another one and does not fail. -/
def Action.attempt {α : Type} (a : Action α) : Action (Except Failure α) := fun w =>
  match a.runIn w with
  | (r, w') => (.ok r, w')

/-- A step that gives the result of another one and does not fail. -/
def ActionOn.attempt {σ α : Type} (a : ActionOn σ α) : ActionOn σ (Except Failure α) := fun s w =>
  match a.runOn s w with
  | ((r, s'), w') => ((.ok r, s'), w')

/-- The step of a result. -/
def ActionOn.ofExcept {σ α : Type} : Except Failure α → ActionOn σ α
  | .ok x => pure x
  | .error e => throw e

@[simp] theorem Action.runIn_attempt {α : Type} (a : Action α) (w : World) :
    a.attempt.runIn w = (.ok (a.runIn w).1, (a.runIn w).2) := rfl

/-- A step after which another one follows in any case gives its own result, unless the other one
fails. -/
theorem Action.followedBy_eq {α : Type} (a : Action α) (b : Action Unit) :
    a.followedBy b = a.attempt >>= fun r => b >>= fun _ => Action.ofExcept r := by
  funext w
  show (a.followedBy b).runIn w = (a.attempt >>= _).runIn w
  rw [Action.runIn_bind, Action.runIn_attempt]
  dsimp only
  rw [Action.runIn_bind]
  unfold Action.runIn
  simp only [Action.followedBy]
  rcases a w with ⟨e | x, w'⟩
  · dsimp only
    rcases b w' with ⟨_ | _, w''⟩ <;> rfl
  · dsimp only
    rcases b w' with ⟨_ | _, w''⟩ <;> rfl

namespace ClasspathFile

variable {α β : Type}

/-! ## The work of others -/

/-- A step that may do anything except to the pending files. -/
def apart (a : Action α) : Action α := fun w =>
  match a.runIn w with
  | (r, w') => (r, { w' with pending := w.pending })

/-- What happens apart leaves the pending files as they are. -/
theorem pending_apart (a : Action α) (w : World) : ((apart a).runIn w).2.pending = w.pending := rfl

/-- What keeps the pending files happens apart of itself. -/
theorem apart_eq_self {a : Action α} (h : a.Within (Same World.pending)) : apart a = a := by
  funext w
  have hw : (a.runIn w).2.pending = w.pending := h w
  show ((a.runIn w).1, { (a.runIn w).2 with pending := w.pending }) = a.runIn w
  rw [← hw]

/-- Filling with entries does not touch the pending files. -/
theorem apart_fill (entries : List Text.CodePoints) :
    (fun p => apart (fill p entries)) = fun p => fill p entries := by
  funext p
  exact apart_eq_self (within_fill p entries)

/-- Writing the entries is writing by a filling that keeps the pending files. -/
theorem write_eq_writeBy (entries : List Text.CodePoints) (directory : Option Path) :
    write entries directory = writeBy (fun p => apart (fill p entries)) directory := by
  rw [write, apart_fill]

/-- An order in which the files of a set can be gone through. -/
structure Order where
  arrange : List Path → List Path
  perm : ∀ ps, (arrange ps).Perm ps

/-- The order in which the files became pending. -/
def Order.given : Order where
  arrange := id
  perm := fun ps => .refl ps

/-- Deletes all pending files in an order. -/
def cleanUpIn (order : Order) : Action Unit := do
  let w ← get
  sweep (order.arrange w.pending)

/-! ## Sessions -/

/-- A program over the operations on classpath files. A filling may fail, and anything may happen in
the meantime. -/
inductive Session where
  | done
  | raise (e : Failure)
  | write (fill : Path → Action Unit) (directory : Option Path)
      (next : Except Failure Path → Session)
  | delete (p : Path) (next : Bool → Session)
  | block (fill : Path → Action Unit) (directory : Option Path) (body : Path → Session)
      (next : Except Failure Unit → Session)
  | cleanUp (order : Order) (next : Session)
  | others (change : World → World) (next : Session)

/-- Runs a session. -/
def Session.run : Session → Action Unit
  | done => pure ()
  | raise e => throw e
  | write fill directory next =>
    (writeBy (fun p => apart (fill p)) directory).attempt >>= fun r => (next r).run
  | delete p next => ClasspathFile.delete p >>= fun gone => (next gone).run
  | block fill directory body next =>
    (withFileBy (fun p => apart (fill p)) directory fun p => (body p).run).attempt
      >>= fun r => (next r).run
  | cleanUp order next => cleanUpIn order >>= fun _ => next.run
  | others change next => apart (modify change) >>= fun _ => next.run

/-! ## Records -/

/-- What can happen in a moment of a session. -/
inductive Event where
  | created (p : Path)
  | deleted (p : Path)
  | kept (p : Path)
  | notCreated
  | changed
  deriving DecidableEq

/-- A moment of a session: what happened, and the world right after it. -/
structure Moment where
  event : Event
  world : World

/-- What an event makes of a world. Others may change everything but the pending files. -/
inductive Step : World → Event → World → Prop
  | created {u v : World} {p : Path} : v.pending = (addPending p u).pending → u.Vacant p →
      ¬ v.Vacant p → (∀ q, u.Vacant q → ¬ v.Vacant q → v.SamePlace q p) → Step u (.created p) v
  | deleted {u v : World} {p : Path} : v.pending = (dropPending p u).pending → v.Vacant p →
      (∀ q, u.Vacant q → v.Vacant q) → Step u (.deleted p) v
  | kept {u : World} {p : Path} {e : Failure} : (Files.discard p).runIn u = (.error e, u) →
      Step u (.kept p) (u.recorded logger .warning (refusalText p e))
  | notCreated {u v : World} : v.pending = u.pending → (∀ q, u.Vacant q → v.Vacant q) →
      Step u .notCreated v
  | changed {u v : World} : v.pending = u.pending → Step u .changed v

/-- Moments that lead from a world to another one, each by its event. -/
inductive Linked (w : World) : List Moment → World → Prop
  | start : Linked w [] w
  | step {ms : List Moment} {u v : World} {e : Event} : Linked w ms u → Step u e v →
      Linked w (ms ++ [⟨e, v⟩]) v

/-- Two linked records are linked as one, if the second begins where the first ends. -/
theorem Linked.append {w u v : World} {ms ms' : List Moment} (h : Linked w ms u)
    (h' : Linked u ms' v) : Linked w (ms ++ ms') v := by
  induction h' with
  | start => rwa [List.append_nil]
  | step _ hstep ih =>
    rw [← List.append_assoc]
    exact .step ih hstep

/-- A step whose moments are added to a record. -/
abbrev Recorded (α : Type) : Type :=
  ActionOn (List Moment) α

/-- Notes the world after a step. -/
def observed (label : Except Failure α → Event) (a : Action α) : Recorded α := fun ms w =>
  match a.runIn w with
  | (r, w') => ((r, ms ++ [⟨label r, w'⟩]), w')

/-- A recorded step does what the step does, and its moments lead to where the step leads. -/
def Recorded.Follows (r : Recorded α) (a : Action α) : Prop :=
  ∀ ms w, ∃ more, r.runOn ms w = (((a.runIn w).1, ms ++ more), (a.runIn w).2) ∧
    Linked w more (a.runIn w).2

namespace Recorded

theorem follows_pure (x : α) : Follows (pure x) (pure x) :=
  fun ms w => ⟨[], by rw [List.append_nil]; rfl, .start⟩

theorem follows_throw (e : Failure) : Follows (throw e : Recorded α) (throw e) :=
  fun ms w => ⟨[], by rw [List.append_nil]; rfl, .start⟩

theorem follows_get : Follows (ActionOn.lift get) get :=
  fun ms w => ⟨[], by rw [List.append_nil]; rfl, .start⟩

theorem follows_ofExcept (r : Except Failure α) :
    Follows (ActionOn.ofExcept r) (Action.ofExcept r) := by
  cases r with
  | ok x => exact follows_pure x
  | error e => exact follows_throw e

/-- An operation whose step is among the known ones is recorded by that step. -/
theorem follows_observed {label : Except Failure α → Event} {a : Action α}
    (h : ∀ w, Step w (label (a.runIn w).1) (a.runIn w).2) : Follows (observed label a) a :=
  fun _ w => ⟨[⟨label (a.runIn w).1, (a.runIn w).2⟩], rfl, .step .start (h w)⟩

variable {r : Recorded α} {a : Action α}

/-- Records are put one behind the other. -/
theorem Follows.bind {f : α → Recorded β} {g : α → Action β} (h : r.Follows a)
    (hf : ∀ x, (f x).Follows (g x)) : Follows (r >>= f) (a >>= g) := by
  intro ms w
  obtain ⟨more, hrun, hlinked⟩ := h ms w
  rw [ActionOn.runOn_bind, Action.runIn_bind, hrun]
  rcases hresult : a.runIn w with ⟨e | x, w'⟩
  · rw [hresult] at hlinked
    exact ⟨more, rfl, hlinked⟩
  · rw [hresult] at hlinked
    obtain ⟨more', hrun', hlinked'⟩ := hf x (ms ++ more) w'
    refine ⟨more ++ more', ?_, hlinked.append hlinked'⟩
    rw [← List.append_assoc]
    exact hrun'

/-- What catches a failure goes on with the record up to there. -/
theorem Follows.tryCatch {f : Failure → Recorded α} {g : Failure → Action α} (h : r.Follows a)
    (hf : ∀ e, (f e).Follows (g e)) : Follows (tryCatch r f) (tryCatch a g) := by
  intro ms w
  obtain ⟨more, hrun, hlinked⟩ := h ms w
  rw [ActionOn.runOn_tryCatch, Action.runIn_tryCatch, hrun]
  rcases hresult : a.runIn w with ⟨e | x, w'⟩
  · rw [hresult] at hlinked
    obtain ⟨more', hrun', hlinked'⟩ := hf e (ms ++ more) w'
    refine ⟨more ++ more', ?_, hlinked.append hlinked'⟩
    rw [← List.append_assoc]
    exact hrun'
  · rw [hresult] at hlinked
    exact ⟨more, rfl, hlinked⟩

/-- A record does not end with a failure that is looked at. -/
theorem Follows.attempt (h : r.Follows a) : Follows r.attempt a.attempt := by
  intro ms w
  obtain ⟨more, hrun, hlinked⟩ := h ms w
  refine ⟨more, ?_, hlinked⟩
  show (match r.runOn ms w with | ((x, s'), w') => ((Except.ok x, s'), w')) = _
  rw [hrun]
  rfl

/-- Operations over a list are recorded one behind the other. -/
theorem Follows.forM {f : β → Recorded PUnit} {g : β → Action PUnit}
    (h : ∀ x, (f x).Follows (g x)) (xs : List β) : Follows (xs.forM f) (xs.forM g) := by
  induction xs with
  | nil => exact follows_pure _
  | cons x xs ih => exact (h x).bind fun _ => ih

end Recorded

/-! ## The recorded operations -/

/-- A recorded creation. -/
def recordedMake (directory : Option Path) : Recorded Path :=
  observed (fun r => match r with | .ok p => .created p | .error _ => .notCreated) (make directory)

/-- A recorded deletion. -/
def recordedDelete (p : Path) : Recorded Bool :=
  observed (fun r => match r with | .ok true => .deleted p | _ => .kept p) (delete p)

/-- A recorded step of others. -/
def recordedChange (a : Action α) : Recorded α :=
  observed (fun _ => .changed) (apart a)

/-- A recorded writing. -/
def recordedWrite (fill : Path → Action Unit) (directory : Option Path) : Recorded Path := do
  let p ← recordedMake directory
  tryCatch (recordedChange (fill p)) fun e =>
    if e.fault.isOs || e.fault.isUnicode then do
      let _ ← recordedDelete p
      throw (notWritten p e)
    else throw e
  return p

/-- A recorded block. -/
def recordedBlock (fill : Path → Action Unit) (directory : Option Path)
    (body : Path → Recorded α) : Recorded α := do
  let p ← recordedWrite fill directory
  let r ← (body p).attempt
  (do let _ ← recordedDelete p : Recorded Unit)
  ActionOn.ofExcept r

/-- A recorded deletion of all pending files. -/
def recordedCleanUp (order : Order) : Recorded Unit := do
  let w ← ActionOn.lift get
  (order.arrange w.pending).forM fun p => do let _ ← recordedDelete p

/-- A recorded run of a session. -/
def Session.record : Session → Recorded Unit
  | done => pure ()
  | raise e => throw e
  | write fill directory next => (recordedWrite fill directory).attempt >>= fun r => (next r).record
  | delete p next => recordedDelete p >>= fun gone => (next gone).record
  | block fill directory body next =>
    (recordedBlock fill directory fun p => (body p).record).attempt >>= fun r => (next r).record
  | cleanUp order next => recordedCleanUp order >>= fun _ => next.record
  | others change next => recordedChange (modify change) >>= fun _ => next.record

/-! ## The record of a run -/

/-- Making a file is a step of a record, whether a file is made or not. -/
theorem step_make (directory : Option Path) (w : World) :
    Step w (match ((make directory).runIn w).1 with | .ok p => .created p | .error _ => .notCreated)
      ((make directory).runIn w).2 := by
  rcases runIn_make directory w with ⟨p, n, tree, hrun, hcreate⟩ | ⟨e, n, hrun⟩
  · obtain ⟨hvacant, hfile⟩ := holdsFile_of_create (n := n) hcreate
    rw [hrun]
    exact .created rfl hvacant hfile.not_vacant fun q => samePlace_of_create hcreate
  · rw [hrun]
    exact .notCreated rfl fun q h => h

/-- Deleting a file is a step of a record, whether it goes or stays. -/
theorem step_delete (p : Path) (w : World) :
    Step w (match ((delete p).runIn w).1 with | .ok true => .deleted p | _ => .kept p)
      ((delete p).runIn w).2 := by
  have hvacant : ∀ q, w.Vacant q → ((delete p).runIn w).2.Vacant q := fun q => vacant_delete p
  rcases runIn_delete p w with ⟨tree, -, hrun, -, hgone⟩ | ⟨e, hdiscard, hrun⟩
  · rw [hrun] at hvacant ⊢
    exact .deleted rfl hgone hvacant
  · rw [hrun]
    exact .kept hdiscard

theorem follows_make (directory : Option Path) :
    (recordedMake directory).Follows (make directory) :=
  Recorded.follows_observed (step_make directory)

theorem follows_delete (p : Path) : (recordedDelete p).Follows (delete p) :=
  Recorded.follows_observed (step_delete p)

theorem follows_change (a : Action α) : (recordedChange a).Follows (apart a) :=
  Recorded.follows_observed fun w => .changed (pending_apart a w)

/-- The recorded writing does what writing does. -/
theorem follows_write (fill : Path → Action Unit) (directory : Option Path) :
    (recordedWrite fill directory).Follows (writeBy (fun p => apart (fill p)) directory) := by
  refine (follows_make directory).bind fun p => ?_
  refine ((follows_change (fill p)).tryCatch fun e => ?_).bind fun _ => Recorded.follows_pure p
  split
  · exact (follows_delete p).bind fun _ => Recorded.follows_throw _
  · exact Recorded.follows_throw e

/-- The recorded block does what the block does, if the recorded body does what the body does. -/
theorem follows_block (fill : Path → Action Unit) (directory : Option Path)
    {body : Path → Recorded α} {work : Path → Action α} (h : ∀ p, (body p).Follows (work p)) :
    (recordedBlock fill directory body).Follows
      (withFileBy (fun p => apart (fill p)) directory work) := by
  refine (follows_write fill directory).bind fun p => ?_
  rw [Action.followedBy_eq]
  refine (h p).attempt.bind fun r => ?_
  refine Recorded.Follows.bind ?_ fun _ => Recorded.follows_ofExcept r
  exact (follows_delete p).bind fun _ => Recorded.follows_pure ()

theorem follows_cleanUp (order : Order) : (recordedCleanUp order).Follows (cleanUpIn order) := by
  refine Recorded.follows_get.bind fun w => Recorded.Follows.forM (fun p => ?_) _
  exact (follows_delete p).bind fun _ => Recorded.follows_pure _

/-- A record has no influence: the recorded run of a session does what the session does. -/
theorem Session.follows_record (s : Session) : s.record.Follows s.run := by
  induction s with
  | done => exact Recorded.follows_pure ()
  | raise e => exact Recorded.follows_throw e
  | write fill directory next ih => exact (follows_write fill directory).attempt.bind ih
  | delete p next ih => exact (follows_delete p).bind ih
  | block fill directory body next ihbody ihnext =>
    exact (follows_block fill directory ihbody).attempt.bind ihnext
  | cleanUp order next ih => exact (follows_cleanUp order).bind fun _ => ih
  | others change next ih => exact (follows_change (modify change)).bind fun _ => ih

/-- The moments of a session that starts in a world. -/
def Session.moments (s : Session) (w : World) : List Moment :=
  (s.record.runOn [] w).1.2

/-- The moments lead from the first world of a run to the last one. -/
theorem Session.runOn_record (s : Session) (w : World) :
    s.record.runOn [] w = (((s.run.runIn w).1, s.moments w), (s.run.runIn w).2) ∧
      Linked w (s.moments w) (s.run.runIn w).2 := by
  obtain ⟨more, hrun, hlinked⟩ := s.follows_record [] w
  have hmoments : s.moments w = more := by
    rw [moments, hrun]
    rfl
  rw [hmoments]
  exact ⟨hrun, hlinked⟩

end ClasspathFile

end Downlevel
