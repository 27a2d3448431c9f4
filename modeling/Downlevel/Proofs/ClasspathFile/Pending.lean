import Downlevel.Proofs.ClasspathFile.Session
/-!
# The pending files are the outstanding ones

At every moment of a session the pending files are those that were created and not deleted since.
The invariant is kept by each event, so it holds along the whole record. A classpath file that
nobody else creates is pending as long as it is there, and deleting all pending files leaves only
those whose removal is refused.
-/
namespace Downlevel.ClasspathFile

/-! ## Outstanding files -/

/-- A file was created and has not been deleted since its latest creation. -/
def Outstanding (events : List Event) (p : Path) : Prop :=
  ∃ before after, events = before ++ .created p :: after ∧ .deleted p ∉ after

theorem not_outstanding_nil (p : Path) : ¬ Outstanding [] p := by
  rintro ⟨before, after, heq, -⟩
  exact List.append_ne_nil_of_right_ne_nil before (List.cons_ne_nil _ after) heq.symm

/-- One more event makes a file outstanding, or leaves it so, or is its deletion. -/
theorem outstanding_append {events : List Event} {e : Event} {p : Path} :
    Outstanding (events ++ [e]) p ↔
      e = .created p ∨ (Outstanding events p ∧ e ≠ .deleted p) := by
  constructor
  · rintro ⟨before, after, heq, hnot⟩
    rcases List.eq_nil_or_concat after with rfl | ⟨after, last, rfl⟩
    · left
      exact List.singleton_inj.mp (List.append_inj' heq rfl).2
    · right
      rw [List.concat_eq_append, ← List.cons_append, ← List.append_assoc] at heq
      rw [List.concat_eq_append, List.mem_append, List.mem_singleton, not_or] at hnot
      obtain ⟨hevents, he⟩ := List.append_inj' heq rfl
      refine ⟨⟨before, after, hevents, hnot.1⟩, ?_⟩
      rw [List.singleton_inj.mp he]
      exact fun h => hnot.2 h.symm
  · rintro (rfl | ⟨⟨before, after, rfl, hnot⟩, he⟩)
    · exact ⟨events, [], rfl, List.not_mem_nil⟩
    · refine ⟨before, after ++ [e], by simp, ?_⟩
      rw [List.mem_append, List.mem_singleton, not_or]
      exact ⟨hnot, fun h => he h.symm⟩

/-! ## Along a record -/

variable {w u v : World} {ms : List Moment} {p q : Path}

/-- The world after some moments that started in a world. -/
def worldAfter (w : World) (ms : List Moment) : World :=
  match ms.getLast? with
  | some m => m.world
  | none => w

/-- The world after a record is that of its last moment. -/
theorem worldAfter_concat (w : World) (ms : List Moment) (m : Moment) :
    worldAfter w (ms ++ [m]) = m.world := by
  rw [worldAfter, List.getLast?_concat]

/-- A linked record ends in the world that it is linked to. -/
theorem Linked.worldAfter_eq (h : Linked w ms u) : worldAfter w ms = u := by
  cases h with
  | start => rfl
  | step _ _ => exact worldAfter_concat w _ _

/-- A record can be cut at every point. -/
theorem Linked.of_append {before after : List Moment} (h : Linked w (before ++ after) v) :
    Linked w before (worldAfter w before) := by
  generalize hms : before ++ after = ms at h
  induction h generalizing after with
  | start =>
    rw [(List.append_eq_nil_iff.mp hms).1]
    exact .start
  | @step ms u v e hlinked hstep ih =>
    rcases List.eq_nil_or_concat after with rfl | ⟨after, last, rfl⟩
    · rw [List.append_nil] at hms
      rw [hms, worldAfter_concat]
      exact .step hlinked hstep
    · rw [List.concat_eq_append, ← List.append_assoc] at hms
      exact ih (List.append_inj' hms rfl).1

/-- What an event does to the pending files. -/
theorem Step.mem_pending_iff {e : Event} (h : Step u e v) :
    p ∈ v.pending ↔ e = .created p ∨ (p ∈ u.pending ∧ e ≠ .deleted p) := by
  cases h with
  | created hpending _ _ _ =>
    rw [hpending, mem_pending_addPending, Event.created.injEq, eq_comm]
    simp
  | deleted hpending _ _ =>
    rw [hpending, mem_pending_dropPending, ne_comm]
    simp
  | kept _ => simp
  | notCreated hpending _ => simp [hpending]
  | changed hpending => simp [hpending]

/-- **The pending files are the outstanding ones.** -/
theorem Linked.mem_pending_iff (h : Linked w ms u) (hempty : w.pending = []) :
    p ∈ u.pending ↔ Outstanding (ms.map Moment.event) p := by
  -- The same case distinction describes one more event on both sides.
  induction h with
  | start => simp [hempty, not_outstanding_nil]
  | step _ hstep ih =>
    rw [List.map_append, List.map_singleton, outstanding_append, hstep.mem_pending_iff, ih]

/-- No file is pending twice, at any time. -/
theorem Linked.nodup_pending (h : Linked w ms u) (hw : w.pending.Nodup) : u.pending.Nodup := by
  induction h with
  | start => exact hw
  | step _ hstep ih =>
    cases hstep with
    | created hpending _ _ _ =>
      rw [hpending]
      exact nodup_addPending ih
    | deleted hpending _ _ =>
      rw [hpending, dropPending]
      exact ih.filter _
    | kept _ => rwa [World.recorded_pending]
    | notCreated hpending _ => rwa [hpending]
    | changed hpending => rwa [hpending]

/-! ## Files on disk -/

/-- Others bring no entry to a path, and no other classpath file is created at the place of the path
under another name. -/
def NobodyElseCreates (w : World) (ms : List Moment) (p : Path) : Prop :=
  ∀ before m after, ms = before ++ m :: after →
    (m.event = .changed → (worldAfter w before).Vacant p → m.world.Vacant p) ∧
    (∀ q, m.event = .created q → m.world.SamePlace p q → q = p)

/-- What holds of a whole record holds of its beginning. -/
theorem NobodyElseCreates.of_append {ms' : List Moment} (h : NobodyElseCreates w (ms ++ ms') p) :
    NobodyElseCreates w ms p := by
  rintro before m after rfl
  exact h before m (after ++ ms') (by simp)

/-- A created file that nobody else creates is pending as long as it is there. -/
theorem Linked.mem_pending_of_not_vacant (h : Linked w ms u) (hours : NobodyElseCreates w ms p)
    (hcreated : .created p ∈ ms.map Moment.event) (hthere : ¬ u.Vacant p) : p ∈ u.pending := by
  induction h with
  | start => cases hcreated
  | @step ms u v e hlinked hstep ih =>
    rw [List.map_append, List.map_singleton, List.mem_append, List.mem_singleton] at hcreated
    obtain ⟨hothers, hplaces⟩ := hours ms ⟨e, v⟩ [] rfl
    rw [hlinked.worldAfter_eq] at hothers
    -- If the file was there before, it was pending, and only its deletion changes that.
    have hpending : e ≠ .created p → ¬ u.Vacant p → p ∈ u.pending := by
      intro he
      exact ih hours.of_append (hcreated.resolve_right fun h => he h.symm)
    rw [hstep.mem_pending_iff]
    cases hstep with
    | @created _ q _ _ _ hsame =>
      by_cases hq : q = p
      · exact Or.inl (congrArg Event.created hq)
      · right
        refine ⟨hpending (by simpa using hq) ?_, nofun⟩
        exact fun hvacant => hq (hplaces q rfl (hsame p hvacant hthere))
    | @deleted _ q _ hgone hvacant =>
      right
      refine ⟨hpending nofun fun hbefore => hthere (hvacant p hbefore), ?_⟩
      rw [ne_eq, Event.deleted.injEq]
      rintro rfl
      exact hthere hgone
    | kept _ =>
      exact Or.inr ⟨hpending nofun fun h => hthere (World.vacant_recorded.mpr h), nofun⟩
    | notCreated _ hvacant =>
      exact Or.inr ⟨hpending nofun fun hbefore => hthere (hvacant p hbefore), nofun⟩
    | changed _ =>
      exact Or.inr ⟨hpending nofun fun hbefore => hthere (hothers rfl hbefore), nofun⟩

/-! ## Deleting one after the other -/

/-- The files whose removal is refused when their turn comes, each with the refusal. -/
def refusals : List Path → World → List (Path × Failure)
  | [], _ => []
  | p :: ps, w =>
    match (Files.discard p).runIn w with
    | (.error e, _) => (p, e) :: refusals ps ((delete p).runIn w).2
    | (.ok (), _) => refusals ps ((delete p).runIn w).2

/-- A sweep deletes its first file, and goes on with the others wherever that ended. -/
theorem runIn_sweep_cons (p : Path) (ps : List Path) (w : World) :
    (sweep (p :: ps)).runIn w = (sweep ps).runIn ((delete p).runIn w).2 := by
  show ((delete p >>= fun _ => pure ()) >>= fun _ => sweep ps).runIn w = _
  rcases runIn_delete p w with ⟨tree, -, hrun, -, -⟩ | ⟨e, -, hrun⟩
  · rw [Action.runIn_bind, Action.runIn_bind_ok hrun, hrun]
    rfl
  · rw [Action.runIn_bind, Action.runIn_bind_ok hrun, hrun]
    rfl

/-- When its turn comes, a file is removed, or its removal is refused and that is told. -/
theorem refusals_cons (p : Path) (ps : List Path) (w : World) :
    (∃ tree, ((delete p).runIn w).2 = dropPending p { w with tree } ∧
      ((delete p).runIn w).2.Vacant p ∧
      refusals (p :: ps) w = refusals ps ((delete p).runIn w).2) ∨
    (∃ e, ((delete p).runIn w).2 = w.recorded logger .warning (refusalText p e) ∧
      refusals (p :: ps) w = (p, e) :: refusals ps ((delete p).runIn w).2) := by
  rcases runIn_delete p w with ⟨tree, hdiscard, hrun, -, hgone⟩ | ⟨e, hdiscard, hrun⟩
  · left
    refine ⟨tree, by rw [hrun], ?_, by rw [refusals, hdiscard]⟩
    rw [hrun]
    exact hgone
  · right
    exact ⟨e, by rw [hrun], by rw [refusals, hdiscard]⟩

/-- What is refused in a sweep was among what was swept, in the same order. -/
theorem refusals_sublist (ps : List Path) (w : World) :
    ((refusals ps w).map Prod.fst).Sublist ps := by
  induction ps generalizing w with
  | nil => exact List.nil_sublist []
  | cons p ps ih =>
    rcases refusals_cons p ps w with ⟨tree, -, -, hrest⟩ | ⟨e, -, hrest⟩
    · rw [hrest]
      exact (ih _).cons p
    · rw [hrest]
      exact (ih _).cons_cons p

/-- Deleting files one after the other never fails. -/
theorem runIn_sweep_ok (ps : List Path) (w : World) : ((sweep ps).runIn w).1 = .ok () := by
  induction ps generalizing w with
  | nil => rfl
  | cons p ps ih => rw [runIn_sweep_cons, ih]

/-- It brings nothing to any path. -/
theorem vacant_sweep (ps : List Path) (h : w.Vacant q) : ((sweep ps).runIn w).2.Vacant q := by
  induction ps generalizing w with
  | nil => exact h
  | cons p ps ih =>
    rw [runIn_sweep_cons]
    exact ih (vacant_delete p h)

/-- Nothing is left at a path whose removal was not refused. -/
theorem vacant_sweep_of_not_mem {ps : List Path} (h : q ∈ ps)
    (hnot : q ∉ (refusals ps w).map Prod.fst) : ((sweep ps).runIn w).2.Vacant q := by
  induction ps generalizing w with
  | nil => cases h
  | cons p ps ih =>
    rw [runIn_sweep_cons]
    rcases refusals_cons p ps w with ⟨tree, -, hgone, hrest⟩ | ⟨e, -, hrest⟩
    · rw [hrest] at hnot
      rcases List.mem_cons.mp h with rfl | h
      · exact vacant_sweep ps hgone
      · exact ih h hnot
    · rw [hrest, List.map_cons, List.mem_cons, not_or] at hnot
      exact ih ((List.mem_cons.mp h).resolve_left hnot.1) hnot.2

/-- What stays pending is what was not deleted, or could not be. -/
theorem mem_pending_sweep {ps : List Path} (hps : ps.Nodup) :
    q ∈ ((sweep ps).runIn w).2.pending ↔
      q ∈ w.pending ∧ (q ∈ ps → q ∈ (refusals ps w).map Prod.fst) := by
  induction ps generalizing w with
  | nil => exact ⟨fun h => ⟨h, nofun⟩, And.left⟩
  | cons p ps ih =>
    obtain ⟨hp, hps⟩ := List.nodup_cons.mp hps
    rw [runIn_sweep_cons, ih hps]
    rcases refusals_cons p ps w with ⟨tree, hworld, -, hrest⟩ | ⟨e, hworld, hrest⟩
    · -- A file that was removed is not tried again, because it occurs once.
      have hnot : p ∉ (refusals ps ((delete p).runIn w).2).map Prod.fst :=
        fun hmem => hp ((refusals_sublist ps _).subset hmem)
      rw [hrest, hworld, mem_pending_dropPending, List.mem_cons, ← hworld]
      by_cases hq : q = p
      · subst hq
        simp [hnot]
      · simp [hq]
    · rw [hrest, hworld, World.recorded_pending, List.map_cons, List.mem_cons, List.mem_cons,
        ← hworld]
      by_cases hq : q = p
      · subst hq
        simp [hp]
      · simp [hq]

/-- Each refusal is told once, in the order of the files. -/
theorem journal_sweep (ps : List Path) (h : w.log.records .warning = true) :
    ((sweep ps).runIn w).2.journal = w.journal
      ++ (refusals ps w).map fun r => (Level.warning.name, refusalText r.1 r.2) := by
  induction ps generalizing w with
  | nil => exact (List.append_nil _).symm
  | cons p ps ih =>
    rw [runIn_sweep_cons]
    rcases refusals_cons p ps w with ⟨tree, hworld, -, hrest⟩ | ⟨e, hworld, hrest⟩
    · have hlog : ((delete p).runIn w).2.log.records .warning = true := by
        rw [hworld]
        exact h
      rw [ih hlog, hrest, hworld]
      rfl
    · have hlog : ((delete p).runIn w).2.log.records .warning = true := by
        rw [hworld, World.recorded_log]
        exact h
      rw [ih hlog, hrest, List.map_cons, hworld, World.journal_recorded (by cbv) h,
        List.append_assoc]
      rfl

theorem runIn_cleanUpIn (order : Order) (w : World) :
    (cleanUpIn order).runIn w = (sweep (order.arrange w.pending)).runIn w := rfl

/-! ## Sessions -/

/-- A machine with nothing but a directory for temporary files. -/
def emptyMachine : World where
  tree := { nodes := [(["tmp"], .directory)] }
  cwd := []
  environment := []

/-- The first classpath file there. -/
def firstFile : Path := ⟨.root, ["tmp", "retrolambda00000001classpath"]⟩

/-- A tree in which the first classpath file gave way to a directory. -/
def blockedTree : FileTree :=
  { nodes := [(["tmp"], .directory), (firstFile.names, .directory)] }

/-- A classpath file is written, somebody replaces it by a directory, and all pending files are
deleted. -/
def replacedFile : Session :=
  .write (fun p => fill p []) none fun _ =>
    .others (fun w => { w with tree := blockedTree }) (.cleanUp .given .done)

/-- A path to the first classpath file goes through one directory. -/
theorem locate_firstFile {t : FileTree} {cwd : Place} (hclosed : t.closed = [])
    (htmp : t.find? ["tmp"] = some .directory)
    (hlink : ∀ target, t.find? firstFile.names ≠ some (.link target)) :
    t.locate cwd false firstFile = .ok firstFile.names := by
  refine FileTree.locate_of_directories (by decide) ?_ (by decide) ?_ hlink
  · -- Nothing is closed, so that only the lengths of the names count.
    intro k hk
    rw [FileTree.refusal?_congr (t := FileTree.empty) hclosed]
    revert k hk
    decide
  · intro k hk
    obtain rfl | rfl : k = 0 ∨ k = 1 := by
      have hk : k < 2 := hk
      omega
    · rfl
    · exact htmp

/-- On a machine the first classpath file has a place among the temporary files. -/
structure HasPlace (w : World) : Prop where
  directory : w.machine.temporaryDirectory = some ⟨.root, ["tmp"]⟩
  closed : w.tree.closed = []
  there : w.tree.find? ["tmp"] = some .directory
  vacant : w.tree.find? firstFile.names = none
  count : w.temporaryFiles = 0

theorem hasPlace_emptyMachine : HasPlace emptyMachine :=
  ⟨rfl, rfl, by decide, by decide, rfl⟩

/-- A file is made where there is a place for it. -/
theorem HasPlace.create {w : World} (h : HasPlace w) :
    w.tree.create w.cwd w.freshId firstFile
      = .ok (w.tree.put firstFile.names (.file w.freshId false [])) :=
  FileTree.create_of_vacant
    (locate_firstFile h.closed h.there (FileTree.ne_link_of_vacant h.vacant)) h.vacant w.freshId

/-- The first classpath file can be made where it has a place. -/
theorem HasPlace.runIn_make {w : World} (h : HasPlace w) :
    (make none).runIn w = (.ok firstFile, addPending firstFile { w with
      tree := w.tree.put firstFile.names (.file w.freshId false [])
      temporaryFiles := 1 }) := by
  have hdirectory : directoryIn w none = .ok ⟨.root, ["tmp"]⟩ := by
    rw [directoryIn, Option.none_or, h.directory]
    rfl
  have hname : (⟨.root, ["tmp"]⟩ : Path).child (fileName (w.temporaryFiles + 1)) = firstFile := by
    rw [h.count, show fileName (0 + 1) = "retrolambda00000001classpath" by decide]
    cbv
  have hcreate : (ClasspathFile.create ⟨.root, ["tmp"]⟩ (w.tree.nodes.length + 1)).runIn w
      = (.ok firstFile, { w with
          tree := w.tree.put firstFile.names (.file w.freshId false [])
          temporaryFiles := 1 }) := by
    unfold ClasspathFile.create
    rw [Action.runIn_bind_ok (Action.runIn_get _), Action.runIn_bind_ok (Action.runIn_set _ _)]
    dsimp only
    rw [hname, h.create, h.count]
    rfl
  unfold make
  rw [Action.runIn_bind_ok (Action.runIn_get w), Action.runIn_bind, Action.runIn_orFail,
    Action.runIn_bind, Action.runIn_ofExcept, hdirectory]
  dsimp only
  rw [hcreate]
  rfl

/-- A directory is not removed. -/
theorem runIn_delete_blocked (w : World) :
    ((delete firstFile).runIn { w with tree := blockedTree }).2.pending = w.pending := by
  have hremove : blockedTree.remove w.cwd firstFile = .error .isDirectory := by
    rw [FileTree.remove, locate_firstFile rfl (by decide) (FileTree.ne_link_of_directory (by decide))]
    rfl
  rcases runIn_delete firstFile { w with tree := blockedTree } with
    ⟨tree, hdiscard, -⟩ | ⟨e, -, hrun⟩
  · rw [Files.discard, Action.runIn_bind_ok (Action.runIn_get _), hremove] at hdiscard
    cases hdiscard
  · rw [hrun, World.recorded_pending]

theorem pending_replacedFile : (replacedFile.run.runIn emptyMachine).2.pending = [firstFile] := by
  have hfile := (holdsFile_of_create (n := 1) hasPlace_emptyMachine.create).2
  obtain ⟨tree, hfill, -⟩ := runIn_fill hfile (show Text.encodeUtf8 (contents []) = .ok [] from rfl)
  have hwrite : (writeBy (fun p => apart (fill p [])) none).runIn emptyMachine
      = (.ok firstFile, { emptyMachine with
        tree := tree
        temporaryFiles := 1
        pending := [firstFile] }) := by
    rw [← write_eq_writeBy, write, writeBy,
      Action.runIn_bind_ok hasPlace_emptyMachine.runIn_make,
      Action.runIn_bind, Action.runIn_tryCatch, hfill]
    rfl
  unfold replacedFile Session.run
  rw [Action.runIn_bind, Action.runIn_attempt, hwrite]
  show ((sweep [firstFile] >>= fun _ => pure ()).runIn { emptyMachine with
    tree := blockedTree
    temporaryFiles := 1
    pending := [firstFile] }).2.pending = _
  rw [Action.runIn_bind, runIn_sweep_cons]
  exact runIn_delete_blocked { emptyMachine with temporaryFiles := 1, pending := [firstFile] }

end Downlevel.ClasspathFile
