import Downlevel.ClasspathFile
import Downlevel.Proofs.FileTree.Names
import Downlevel.Proofs.Text.Joining
import Downlevel.Proofs.World.Frame
/-!
# What the steps on classpath files do

One lemma for each step that says all it can do. A new file is made where nothing stood, and is
pending then. A deletion leaves nothing at the path, or changes nothing but the log. In both cases
no other path gets an entry.
-/
namespace Downlevel

/-- Nothing stands at a path. -/
def World.Vacant (w : World) (p : Path) : Prop :=
  w.tree.nodeAt w.cwd p = none

/-- A message brings nothing to a path and takes nothing away. -/
@[simp] theorem World.vacant_recorded {w : World} {p : Path} {logger message : String}
    {level : Level} : (w.recorded logger level message).Vacant p ↔ w.Vacant p := by
  have hgrown := (onlyRecorded_recorded w logger level message).grown
  unfold Vacant
  rw [recorded_cwd]
  exact hgrown.nodeAt_eq_none_iff

/-- Two paths lead to the same place. -/
def World.SamePlace (w : World) (p q : Path) : Prop :=
  ∃ place, w.tree.locate w.cwd false p = .ok place ∧ w.tree.locate w.cwd false q = .ok place

/-- A file with some bytes stands at a path, and it is not open for the log. -/
def World.HoldsFile (w : World) (p : Path) (bytes : List UInt8) : Prop :=
  ∃ place id x, w.tree.locate w.cwd false p = .ok place ∧
    w.tree.find? place = some (.file id x bytes) ∧ id ∉ w.log.fileIds

namespace World.HoldsFile

variable {w w' : World} {p : Path} {bytes : List UInt8}

/-- The bytes of the file can be read. -/
theorem read (h : w.HoldsFile p bytes) : w.tree.read w.cwd p = .ok bytes := by
  obtain ⟨place, id, x, hplace, hfile, -⟩ := h
  exact FileTree.read_of_locate hplace hfile

theorem not_vacant (h : w.HoldsFile p bytes) : ¬ w.Vacant p := by
  obtain ⟨place, id, x, hplace, hfile, -⟩ := h
  rw [Vacant, FileTree.nodeAt_of_locate hplace, hfile]
  exact nofun

/-- Messages do not reach the file. -/
theorem of_onlyRecorded (h : w.HoldsFile p bytes) (hw : w.OnlyRecorded w') :
    w'.HoldsFile p bytes := by
  obtain ⟨place, id, x, hplace, hfile, hid⟩ := h
  refine ⟨place, id, x, ?_, hw.grown.kept place id x bytes hid hfile, ?_⟩
  · rw [hw.cwd]
    exact FileTree.locate_of_isPartOf hw.grown.isPartOf hplace
  · rwa [hw.log]

end World.HoldsFile

namespace Files

variable {w w' : World} {p : Path}

/-! ## Removal -/

/-- A removal leaves nothing at the path, and brings nothing to another one. Or else it is refused
because something stands there, or no path is like that, and changes nothing. -/
theorem runIn_discard (p : Path) (w : World) :
    (∃ tree, (discard p).runIn w = (.ok (), { w with tree }) ∧ tree.IsPartOf w.tree ∧
      tree.nodeAt w.cwd p = none) ∨
    (∃ errno, (errno ≠ .noEntry ∨ p.hasNull = true) ∧ w.tree.remove w.cwd p = .error errno ∧
      (discard p).runIn w = (.error (failure errno p), w)) := by
  unfold discard
  rw [Action.runIn_bind_ok (Action.runIn_get w)]
  cases hremove : w.tree.remove w.cwd p with
  | ok tree =>
    left
    exact ⟨tree, rfl, FileTree.remove_isPartOf hremove, FileTree.nodeAt_remove hremove⟩
  | error errno =>
    dsimp only
    by_cases hmissing : errno = .noEntry ∧ ¬ p.hasNull
    · left
      rw [if_pos hmissing]
      obtain ⟨rfl, -⟩ := hmissing
      exact ⟨w.tree, rfl, .refl _, FileTree.nodeAt_of_remove_noEntry hremove⟩
    · right
      rw [if_neg hmissing]
      refine ⟨errno, ?_, rfl, rfl⟩
      rw [not_and_or, not_not] at hmissing
      exact hmissing

end Files

namespace ClasspathFile

variable {w w' : World} {p q : Path}

/-! ## The pending files -/

theorem mem_pending_addPending : q ∈ (addPending p w).pending ↔ q = p ∨ q ∈ w.pending := by
  unfold addPending
  dsimp only
  by_cases h : w.pending.contains p
  · rw [if_pos h]
    constructor
    · exact Or.inr
    · rintro (rfl | hq)
      · exact List.contains_iff_mem.mp h
      · exact hq
  · rw [if_neg h, List.mem_append, List.mem_singleton, or_comm]

theorem mem_pending_dropPending : q ∈ (dropPending p w).pending ↔ q ∈ w.pending ∧ q ≠ p := by
  rw [dropPending, List.mem_filter, decide_eq_true_iff]

/-- A file that was not pending is the last of the pending ones once it is added. -/
theorem pending_addPending_of_not_mem (h : p ∉ w.pending) :
    (addPending p w).pending = w.pending ++ [p] := by
  rw [addPending, if_neg]
  rwa [List.contains_iff_mem]

/-- Adding a file does not make it pending twice. -/
theorem nodup_addPending (h : w.pending.Nodup) : (addPending p w).pending.Nodup := by
  by_cases hp : p ∈ w.pending
  · rwa [addPending, if_pos (List.contains_iff_mem.mpr hp)]
  · rw [pending_addPending_of_not_mem hp]
    refine List.nodup_append.mpr ⟨h, List.pairwise_singleton _ p, ?_⟩
    intro a ha b hb
    rw [List.mem_singleton.mp hb]
    rintro rfl
    exact hp ha

/-- A file that was not pending leaves no trace once it is added and dropped. -/
theorem pending_drop_add (h : p ∉ w.pending) :
    (dropPending p (addPending p w)).pending = w.pending := by
  have hkept : w.pending.filter (· ≠ p) = w.pending := by
    rw [List.filter_eq_self]
    intro a ha
    rw [decide_eq_true_iff]
    rintro rfl
    exact h ha
  rw [dropPending, pending_addPending_of_not_mem h]
  dsimp only
  rw [List.filter_append, hkept, List.filter_cons_of_neg (by simp), List.filter_nil,
    List.append_nil]

/-! ## Creation -/

/-- The first number in a directory whose name is not taken, with what comes of making a file of that
name. -/
structure FirstFree (w : World) (directory : Path) (n : Nat) (r : Except Errno FileTree) : Prop where
  later : w.temporaryFiles < n
  taken : ∀ m, w.temporaryFiles < m → m < n →
    w.tree.create w.cwd w.freshId (directory.child (fileName m)) = .error .exists
  outcome : w.tree.create w.cwd w.freshId (directory.child (fileName n)) = r
  free : r ≠ .error .exists

/-- A name that is taken is passed over. -/
theorem FirstFree.of_next {directory : Path} {n : Nat} {r : Except Errno FileTree}
    (h : FirstFree { w with temporaryFiles := w.temporaryFiles + 1 } directory n r)
    (htaken : w.tree.create w.cwd w.freshId (directory.child (fileName (w.temporaryFiles + 1)))
      = .error .exists) : FirstFree w directory n r where
  later := (Nat.lt_succ_self _).trans h.later
  taken := by
    intro m hm hmn
    rcases Nat.eq_or_lt_of_le (Nat.succ_le_of_lt hm) with rfl | hm
    · exact htaken
    · exact h.taken m hm hmn
  outcome := h.outcome
  free := h.free

/-- The next number is the first free one, if its name is not taken. -/
theorem firstFree_next {directory : Path} {r : Except Errno FileTree}
    (h : w.tree.create w.cwd w.freshId (directory.child (fileName (w.temporaryFiles + 1))) = r)
    (hfree : r ≠ .error .exists) : FirstFree w directory (w.temporaryFiles + 1) r :=
  ⟨Nat.lt_succ_self _, fun _ hm hmn => absurd hm (Nat.not_lt_of_le (Nat.le_of_lt_succ hmn)), h, hfree⟩

/-- A file is created under the first name that is not taken, or that name is refused, or all the names
that are tried are taken. -/
theorem runIn_create (directory : Path) (attempts : Nat) (w : World) :
    (∃ n tree, FirstFree w directory n (.ok tree) ∧ (create directory attempts).runIn w
        = (.ok (directory.child (fileName n)), { w with tree, temporaryFiles := n })) ∨
    (∃ n e, FirstFree w directory n (.error e) ∧ (create directory attempts).runIn w
        = (.error (Files.failure e (directory.child (fileName n))),
          { w with temporaryFiles := n })) ∨
    ((∀ k < attempts, w.tree.create w.cwd w.freshId
        (directory.child (fileName (w.temporaryFiles + 1 + k))) = .error .exists) ∧
      ∃ e n, (create directory attempts).runIn w = (.error e, { w with temporaryFiles := n }) ∧
        e.fault.isOs = true) := by
  induction attempts generalizing w with
  | zero =>
    right; right
    exact ⟨fun k hk => absurd hk (Nat.not_lt_zero k), _, w.temporaryFiles, rfl, by decide⟩
  | succ attempts ih =>
    unfold create
    rw [Action.runIn_bind_ok (Action.runIn_get w), Action.runIn_bind_ok (Action.runIn_set _ w)]
    dsimp only
    cases hcreate : w.tree.create w.cwd w.freshId
        (directory.child (fileName (w.temporaryFiles + 1))) with
    | ok tree => exact Or.inl ⟨_, tree, firstFree_next hcreate nofun, rfl⟩
    | error errno =>
      -- Only a name that is taken leads to another attempt.
      by_cases hexists : errno = .exists
      · subst hexists
        rcases ih { w with temporaryFiles := w.temporaryFiles + 1 } with
          ⟨n, tree, hfree, hrun⟩ | ⟨n, e, hfree, hrun⟩ | ⟨htaken, e, n, hrun, hos⟩
        · exact Or.inl ⟨n, tree, hfree.of_next hcreate, hrun⟩
        · exact Or.inr (Or.inl ⟨n, e, hfree.of_next hcreate, hrun⟩)
        · refine Or.inr (Or.inr ⟨fun k hk => ?_, e, n, hrun, hos⟩)
          cases k with
          | zero => exact hcreate
          | succ k =>
            have hnext := htaken k (Nat.lt_of_succ_lt_succ hk)
            rwa [Nat.add_right_comm] at hnext
      · refine Or.inr (Or.inl ⟨w.temporaryFiles + 1, errno,
          firstFree_next hcreate fun h => hexists (Except.error.inj h), ?_⟩)
        cases errno <;> first | rfl | exact absurd rfl hexists

/-- A new classpath file is pending from then on. -/
theorem runIn_make (directory : Option Path) (w : World) :
    (∃ p n tree, (make directory).runIn w
        = (.ok p, addPending p { w with tree, temporaryFiles := n }) ∧
      w.tree.create w.cwd w.freshId p = .ok tree) ∨
    (∃ e n, (make directory).runIn w = (.error e, { w with temporaryFiles := n })) := by
  unfold make
  rw [Action.runIn_bind_ok (Action.runIn_get w), Action.runIn_bind, Action.runIn_orFail,
    Action.runIn_bind, Action.runIn_ofExcept]
  cases directoryIn w directory with
  | error e =>
    right
    exact ⟨_, w.temporaryFiles, rfl⟩
  | ok d =>
    dsimp only
    rcases runIn_create d (w.tree.nodes.length + 1) w with
      ⟨n, tree, hfree, hrun⟩ | ⟨n, e, -, hrun⟩ | ⟨-, e, n, hrun, -⟩
    · left
      rw [hrun]
      exact ⟨_, n, tree, rfl, hfree.outcome⟩
    · right
      rw [hrun]
      exact ⟨_, n, rfl⟩
    · right
      rw [hrun]
      exact ⟨_, n, rfl⟩

/-! ## Deletion -/

/-- What is told of a file that cannot be deleted. -/
def refusalText (p : Path) (e : Failure) : String :=
  "Unable to delete " ++ p.toString ++ ": " ++ e.fault.text

/-- Where the system removes a file, it is deleted and no longer pending. -/
theorem runIn_delete_of_remove {tree : FileTree} (h : w.tree.remove w.cwd p = .ok tree) :
    (delete p).runIn w = (.ok true, dropPending p { w with tree }) := by
  have hdiscard : (Files.discard p).runIn w = (.ok (), { w with tree }) := by
    rw [Files.discard, Action.runIn_bind_ok (Action.runIn_get w), h]
    rfl
  rw [delete, Action.runIn_bind_ok (Action.runIn_get w), hdiscard]
  rfl

/-- A deletion never fails. Either nothing stands at the path afterwards, and it is not pending. Or
the removal is refused, and that is told once. -/
theorem runIn_delete (p : Path) (w : World) :
    (∃ tree, (Files.discard p).runIn w = (.ok (), { w with tree }) ∧
      (delete p).runIn w = (.ok true, dropPending p { w with tree }) ∧
      tree.IsPartOf w.tree ∧ tree.nodeAt w.cwd p = none) ∨
    (∃ e, (Files.discard p).runIn w = (.error e, w) ∧
      (delete p).runIn w = (.ok false, w.recorded logger .warning (refusalText p e))) := by
  unfold delete
  rw [Action.runIn_bind_ok (Action.runIn_get w)]
  rcases Files.runIn_discard p w with ⟨tree, hrun, hpart, hgone⟩ | ⟨errno, -, -, hrun⟩
  · left
    refine ⟨tree, hrun, ?_, hpart, hgone⟩
    rw [hrun]
    rfl
  · right
    refine ⟨_, hrun, ?_⟩
    rw [hrun]
    rfl

/-- A deletion brings nothing to any path. -/
theorem vacant_delete (p : Path) (h : w.Vacant q) : ((delete p).runIn w).2.Vacant q := by
  rcases runIn_delete p w with ⟨tree, -, hrun, hpart, -⟩ | ⟨e, -, hrun⟩
  · rw [hrun]
    exact FileTree.nodeAt_eq_none_of_isPartOf hpart h
  · rw [hrun]
    exact World.vacant_recorded.mpr h

/-! ## Filling -/

/-- The entries are written with line feeds between them. -/
theorem contents_codePoints (entries : List String) :
    contents (entries.map Text.codePoints) = Text.codePoints ("\n".intercalate entries) := by
  rw [Text.codePoints_intercalate]
  rfl

/-- A new file is empty, and stands where nothing stood before. -/
theorem holdsFile_of_create {n : Nat} {tree : FileTree}
    (h : w.tree.create w.cwd w.freshId p = .ok tree) :
    w.Vacant p ∧ (addPending p { w with tree, temporaryFiles := n }).HoldsFile p [] := by
  obtain ⟨hvacant, place, hplace, hfile⟩ := FileTree.nodeAt_create h
  exact ⟨hvacant, place, w.freshId, false, hplace, hfile, w.freshId_not_mem⟩

/-- A new file is an entry of no other place. -/
theorem samePlace_of_create {n : Nat} {tree : FileTree}
    (h : w.tree.create w.cwd w.freshId p = .ok tree) (hbefore : w.Vacant q)
    (hafter : ¬ (addPending p { w with tree, temporaryFiles := n }).Vacant q) :
    (addPending p { w with tree, temporaryFiles := n }).SamePlace q p :=
  FileTree.locate_of_create h hbefore hafter

/-- The result of a filling whose write was begun. -/
def fillResult : Option Break → Except Failure Unit
  | none => .ok ()
  | some b => .error ⟨.unnamed b.errno, []⟩

/-- Entries that have a form in bytes replace what was in a file, as far as the next write goes. -/
theorem runIn_fill {entries : List Text.CodePoints} {old bytes : List UInt8}
    (h : w.HoldsFile p old) (hbytes : Text.encodeUtf8 (contents entries) = .ok bytes) :
    ∃ tree, (fill p entries).runIn w
        = (fillResult (Files.nextBreak w), { w with tree, breaks := w.breaks.tail }) ∧
      World.HoldsFile { w with tree, breaks := w.breaks.tail } p
        (Files.kept bytes (Files.nextBreak w)) ∧
      w.tree.write w.cwd w.freshId p (Files.kept bytes (Files.nextBreak w)) = .ok tree := by
  obtain ⟨place, id, x, hplace, hfile, hid⟩ := h
  obtain ⟨tree, hwrite, hpart, -, hfile'⟩ :=
    FileTree.write_of_locate hplace hfile w.freshId (Files.kept bytes (Files.nextBreak w))
  refine ⟨tree, ?_, ⟨place, id, x, FileTree.locate_of_isPartOf hpart hplace, hfile', hid⟩, hwrite⟩
  rw [fill, hbytes]
  dsimp only
  rw [Files.write, Files.runIn_writeOr, hwrite]
  cases Files.nextBreak w <;> rfl

/-- A step that keeps the pending files. -/
theorem within_fill (p : Path) (entries : List Text.CodePoints) :
    (fill p entries).Within (Same World.pending) := by
  unfold fill
  split
  · exact Action.within_fail _
  · rename_i bytes _
    intro w
    have hwritten : w.OnlyTree ((Files.write p bytes).runIn w).2 := Files.within_write p bytes w
    rw [hwritten]
    rfl

/-! ## Writing -/

/-- A file that was just made is deleted without refusal, and nothing is left of it. -/
theorem runIn_delete_of_create {n : Nat} {tree : FileTree}
    (h : w.tree.create w.cwd w.freshId p = .ok tree) :
    (delete p).runIn (addPending p { w with tree, temporaryFiles := n })
      = (.ok true, dropPending p (addPending p { w with temporaryFiles := n })) :=
  runIn_delete_of_remove (FileTree.remove_create h)

/-- Neither is one that something was written into. -/
theorem runIn_delete_of_written {n : Nat} {breaks : List (Option Break)} {tree filled : FileTree}
    {fresh : Nat} {bytes : List UInt8} (h : w.tree.create w.cwd w.freshId p = .ok tree)
    (hwrite : tree.write w.cwd fresh p bytes = .ok filled) :
    (delete p).runIn (addPending p { w with tree := filled, temporaryFiles := n, breaks })
      = (.ok true, dropPending p (addPending p { w with temporaryFiles := n, breaks })) :=
  runIn_delete_of_remove (FileTree.remove_of_create_write
    (fun _ _ _ _ hmem => World.ne_freshId_of_mem hmem) h hwrite)

/-- A text that cannot be encoded is a fault of the text, not of the system. -/
theorem isUnicode_encodingFault (run : Text.SurrogateRun) :
    (encodingFault run).isUnicode = true := by
  rw [encodingFault, Fault.isUnicode]
  rfl

section

variable {entries : List Text.CodePoints} {directory : Option Path} {n : Nat} {tree : FileTree}

/-- Entries with a form in bytes are written into the file that was made, if nothing breaks that
off. -/
theorem runIn_write_of_bytes {bytes : List UInt8}
    (hmake : (make directory).runIn w = (.ok p, addPending p { w with tree, temporaryFiles := n }))
    (hcreate : w.tree.create w.cwd w.freshId p = .ok tree)
    (hbytes : Text.encodeUtf8 (contents entries) = .ok bytes) (hnext : Files.nextBreak w = none) :
    ∃ filled fresh, (write entries directory).runIn w = (.ok p, addPending p
        { w with tree := filled, temporaryFiles := n, breaks := w.breaks.tail }) ∧
      (addPending p { w with tree := filled, temporaryFiles := n, breaks := w.breaks.tail }).HoldsFile
        p bytes ∧
      tree.write w.cwd fresh p bytes = .ok filled := by
  have hnext' : Files.nextBreak (addPending p { w with tree, temporaryFiles := n }) = none := hnext
  obtain ⟨filled, hfill, hfile, hwrite⟩ :=
    runIn_fill (holdsFile_of_create (n := n) hcreate).2 hbytes
  rw [hnext'] at hfill hfile hwrite
  refine ⟨filled, _, ?_, hfile, hwrite⟩
  unfold write writeBy
  rw [Action.runIn_bind_ok hmake, Action.runIn_bind, Action.runIn_tryCatch, hfill]
  rfl

/-- The file that was made for entries whose writing breaks off is deleted. -/
theorem runIn_write_of_broken {bytes : List UInt8} {b : Break}
    (hmake : (make directory).runIn w = (.ok p, addPending p { w with tree, temporaryFiles := n }))
    (hcreate : w.tree.create w.cwd w.freshId p = .ok tree)
    (hbytes : Text.encodeUtf8 (contents entries) = .ok bytes) (hnext : Files.nextBreak w = some b) :
    (write entries directory).runIn w = (.error (notWritten p ⟨.unnamed b.errno, []⟩),
      dropPending p (addPending p { w with temporaryFiles := n, breaks := w.breaks.tail })) := by
  have hnext' : Files.nextBreak (addPending p { w with tree, temporaryFiles := n }) = some b := hnext
  obtain ⟨filled, hfill, -, hwrite⟩ := runIn_fill (holdsFile_of_create (n := n) hcreate).2 hbytes
  rw [hnext'] at hfill hwrite
  generalize hmade : addPending p { w with tree, temporaryFiles := n } = made at hmake hnext' hfill hwrite
  have hdelete : (delete p).runIn { made with tree := filled, breaks := made.breaks.tail }
      = (.ok true, dropPending p (addPending p
        { w with temporaryFiles := n, breaks := w.breaks.tail })) := by
    rw [← hmade]
    exact runIn_delete_of_written hcreate (hmade ▸ hwrite)
  unfold write writeBy
  rw [Action.runIn_bind_ok hmake, Action.runIn_bind, Action.runIn_tryCatch, hfill]
  dsimp only [fillResult]
  rw [Files.isOs_unnamed, Bool.true_or, if_pos rfl, Action.runIn_bind_ok hdelete]
  rfl

/-- The file that was made for other entries is deleted before anything is written. -/
theorem runIn_write_of_refused {run : Text.SurrogateRun}
    (hmake : (make directory).runIn w = (.ok p, addPending p { w with tree, temporaryFiles := n }))
    (hcreate : w.tree.create w.cwd w.freshId p = .ok tree)
    (hrefused : Text.encodeUtf8 (contents entries) = .error run) :
    (write entries directory).runIn w = (.error (notWritten p ⟨encodingFault run, []⟩),
      dropPending p (addPending p { w with temporaryFiles := n })) := by
  have hfill : (fill p entries).runIn (addPending p { w with tree, temporaryFiles := n })
      = (.error ⟨encodingFault run, []⟩, addPending p { w with tree, temporaryFiles := n }) := by
    rw [fill, hrefused]
    rfl
  unfold write writeBy
  rw [Action.runIn_bind_ok hmake, Action.runIn_bind, Action.runIn_tryCatch, hfill]
  dsimp only
  rw [isUnicode_encodingFault, Bool.or_true, if_pos rfl,
    Action.runIn_bind_ok (runIn_delete_of_create hcreate)]
  rfl

/-- Nothing is written if no file can be made. -/
theorem runIn_write_of_make_error {e : Failure} {w' : World}
    (hmake : (make directory).runIn w = (.error e, w')) :
    (write entries directory).runIn w = (.error e, w') := by
  unfold write writeBy
  rw [Action.runIn_bind, hmake]

end

/-- Entries that cannot be written now: they have no form in bytes, or the next write breaks off. -/
def Unwritable (entries : List Text.CodePoints) (w : World) : Prop :=
  (∃ run, Text.encodeUtf8 (contents entries) = .error run) ∨ ∃ b, Files.nextBreak w = some b

/-- A new classpath file holds the entries, and is pending. If it cannot be made or filled, nothing
is left of it. -/
theorem runIn_write (entries : List Text.CodePoints) (directory : Option Path) (w : World) :
    (∃ p bytes n tree, (write entries directory).runIn w = (.ok p, addPending p
        { w with tree, temporaryFiles := n, breaks := w.breaks.tail }) ∧
      ((make directory).runIn w).1 = .ok p ∧ Text.encodeUtf8 (contents entries) = .ok bytes ∧
      (addPending p { w with tree, temporaryFiles := n, breaks := w.breaks.tail }).HoldsFile p
        bytes) ∨
    (∃ e n, (write entries directory).runIn w = (.error e, { w with temporaryFiles := n }) ∧
      ((make directory).runIn w).1 = .error e) ∨
    (∃ e p n breaks, (write entries directory).runIn w = (.error (notWritten p e),
        dropPending p (addPending p { w with temporaryFiles := n, breaks })) ∧
      ((make directory).runIn w).1 = .ok p ∧ Unwritable entries w) := by
  rcases runIn_make directory w with ⟨p, n, tree, hmake, hcreate⟩ | ⟨e, n, hmake⟩
  · -- The file is made. The text may have no encoding, and the write may break off.
    cases hbytes : Text.encodeUtf8 (contents entries) with
    | ok bytes =>
      cases hnext : Files.nextBreak w with
      | none =>
        obtain ⟨filled, -, hwrite, hfile, -⟩ := runIn_write_of_bytes hmake hcreate hbytes hnext
        exact Or.inl ⟨p, bytes, n, filled, hwrite, by rw [hmake], rfl, hfile⟩
      | some b =>
        exact Or.inr (Or.inr ⟨_, p, n, _, runIn_write_of_broken hmake hcreate hbytes hnext,
          by rw [hmake], Or.inr ⟨b, hnext⟩⟩)
    | error run =>
      exact Or.inr (Or.inr ⟨_, p, n, w.breaks, runIn_write_of_refused hmake hcreate hbytes,
        by rw [hmake], Or.inl ⟨run, hbytes⟩⟩)
  · exact Or.inr (Or.inl ⟨e, n, runIn_write_of_make_error hmake, by rw [hmake]⟩)

/-- Whatever comes of it, the writing changes the tree, the writes to come, the count of temporary
files and the pending files alone. -/
theorem within_write {R : World → World → Prop}
    (h : ∀ w tree breaks n pending,
      R w { w with tree, breaks, temporaryFiles := n, pending })
    (entries : List Text.CodePoints) (directory : Option Path) :
    (write entries directory).Within R := by
  intro w
  rcases runIn_write entries directory w with
    ⟨p, bytes, n, tree, hrun, -⟩ | ⟨e, n, hrun, -⟩ | ⟨e, p, n, breaks, hrun, -⟩
  · rw [hrun]
    exact h w tree w.breaks.tail n _
  · rw [hrun]
    exact h w w.tree w.breaks n w.pending
  · rw [hrun]
    exact h w w.tree breaks n _

end ClasspathFile

end Downlevel
