import Downlevel.Proofs.Action
import Downlevel.Proofs.FileTree.Shape
import Downlevel.Proofs.Text.Encoding
import Downlevel.World
/-!
# What recording changes

A recorded message reaches the journal, the error stream, and the files that are open for the log.
Nothing else of the world changes: no node comes or goes, and a file that is not open for the log
keeps its bytes.
-/
namespace Downlevel

/-! ## Trees in which files grew -/

namespace FileTree

/-- Only files with some identities differ in two trees, and only in what they contain. -/
structure Grown (ids : List Nat) (t t' : FileTree) : Prop where
  isPartOf : t.IsPartOf t'
  isPartOf_left : t'.IsPartOf t
  kept : ∀ q id x bytes, id ∉ ids → t.find? q = some (.file id x bytes) →
    t'.find? q = some (.file id x bytes)

variable {ids : List Nat} {t t' t'' : FileTree}

theorem Grown.refl (ids : List Nat) (t : FileTree) : t.Grown ids t where
  isPartOf := .refl t
  isPartOf_left := .refl t
  kept := fun _ _ _ _ _ h => h

theorem Grown.trans (h : t.Grown ids t') (h' : t'.Grown ids t'') : t.Grown ids t'' where
  isPartOf := h.isPartOf.trans h'.isPartOf
  isPartOf_left := h'.isPartOf_left.trans h.isPartOf_left
  kept := fun q id x bytes hid hfile => h'.kept q id x bytes hid (h.kept q id x bytes hid hfile)

/-- A tree in which one of the files was appended to has grown. -/
theorem grown_append {id : Nat} (h : id ∈ ids) (t : FileTree) (more : List UInt8) :
    t.Grown ids (t.append id more) where
  isPartOf := isPartOf_append t id more
  isPartOf_left := append_isPartOf t id more
  kept := by
    intro q i x bytes hi hfile
    have hne : i ≠ id := by
      rintro rfl
      exact hi h
    exact find?_append_of_ne hne hfile more

/-- A path has an entry in both trees or in none. -/
theorem Grown.nodeAt_eq_none_iff (h : t.Grown ids t') {cwd : Place} {p : Path} :
    t'.nodeAt cwd p = none ↔ t.nodeAt cwd p = none :=
  ⟨nodeAt_eq_none_of_isPartOf h.isPartOf, nodeAt_eq_none_of_isPartOf h.isPartOf_left⟩

/-- A tree that has grown has the same shape. -/
theorem Grown.sameShape (h : t.Grown ids t') : t.SameShape t' :=
  sameShape_of_isPartOf h.isPartOf h.isPartOf_left

/-- A path without one of the files at its end is read alike. -/
theorem Grown.read (h : t.Grown ids t') {cwd : Place} {p : Path}
    (hp : ∀ id x bytes, t.status cwd p = .ok (.file id x bytes) → id ∉ ids) :
    t'.read cwd p = t.read cwd p := by
  have hstatus : t'.status cwd p = t.status cwd p := by
    revert hp
    unfold status
    rw [h.sameShape.locate]
    cases t.locate cwd true p with
    | error e => exact fun _ => rfl
    | ok place =>
      intro hp
      dsimp only
      cases hnode : t.find? place with
      | none => rw [h.sameShape.none hnode]
      | some n =>
        -- A node keeps its kind, and a file that is not among the grown ones its bytes.
        cases n with
        | directory => rw [h.sameShape.directory hnode]
        | link target => rw [h.sameShape.link hnode]
        | file id x bytes =>
          dsimp only at hp
          rw [hnode] at hp
          rw [h.kept place id x bytes (hp id x bytes rfl) hnode]
  unfold FileTree.read
  rw [hstatus]

end FileTree

namespace World

variable {w w' w'' : World} {logger message : String} {points : Text.CodePoints} {level : Level}

/-! ## Fresh identities -/

/-- A greatest number is at least the one it starts with and each one it is taken of. -/
theorem le_foldl_max (ids : List Nat) (n : Nat) :
    n ≤ ids.foldl max n ∧ ∀ id ∈ ids, id ≤ ids.foldl max n := by
  induction ids generalizing n with
  | nil => exact ⟨Nat.le_refl n, fun _ hid => nomatch hid⟩
  | cons i ids ih =>
    obtain ⟨hstart, hall⟩ := ih (max n i)
    rw [List.foldl_cons]
    refine ⟨by omega, ?_⟩
    intro id hid
    rcases List.mem_cons.mp hid with rfl | hid
    · omega
    · exact hall id hid

/-- A new file takes an identity that no file of the log has. -/
theorem freshId_not_mem (w : World) : w.freshId ∉ w.log.fileIds := by
  intro hmem
  have hlast : w.freshId ≤ w.log.lastId := (le_foldl_max w.log.fileIds 0).2 _ hmem
  rw [freshId] at hlast
  omega

/-- The last number of a file is the largest one that is listed. -/
theorem lastId_eq (t : FileTree) : t.lastId
    = (t.nodes.filterMap fun e => match e.2 with | .file id _ _ => some id | _ => none).foldl max 0 := by
  rw [FileTree.lastId, List.foldl_filterMap]
  congr 1
  funext n e
  cases e.2 <;> rfl

/-- A new file takes an identity that no listed file of the tree has. -/
theorem ne_freshId_of_mem {w : World} {q : Place} {id : Nat} {x : Bool} {bytes : List UInt8}
    (h : (q, Node.file id x bytes) ∈ w.tree.nodes) : id ≠ w.freshId := by
  have hlast : id ≤ w.tree.lastId := by
    rw [lastId_eq]
    exact (le_foldl_max _ 0).2 id (List.mem_filterMap.mpr ⟨_, h, rfl⟩)
  rw [freshId]
  omega

/-- A fresh number is that of no file. -/
theorem ne_freshId {w : World} {q : Place} {id : Nat} {x : Bool} {bytes : List UInt8}
    (h : w.tree.find? q = some (.file id x bytes)) : id ≠ w.freshId :=
  ne_freshId_of_mem (FileTree.mem_nodes_of_find? (FileTree.ne_root_of_find? (by rw [h]; exact nofun)) h)

/-- The log does not write to the file that a path leads to, if there is one. -/
def Unlogged (w : World) (p : Path) : Prop :=
  ∀ id x bytes, w.tree.status w.cwd p = .ok (.file id x bytes) → id ∉ w.log.fileIds

/-! ## Recording -/

/-- Between two worlds nothing happened but that messages were recorded. -/
structure OnlyRecorded (w w' : World) : Prop where
  grown : w.tree.Grown w.log.fileIds w'.tree
  rest : w' = { w with
    tree := w'.tree
    errorStream := w'.errorStream
    journal := w'.journal }

theorem OnlyRecorded.refl (w : World) : w.OnlyRecorded w :=
  ⟨.refl _ _, rfl⟩

theorem OnlyRecorded.log (h : w.OnlyRecorded w') : w'.log = w.log := by
  rw [h.rest]

theorem OnlyRecorded.pending (h : w.OnlyRecorded w') : w'.pending = w.pending := by
  rw [h.rest]

theorem OnlyRecorded.machine (h : w.OnlyRecorded w') : w'.machine = w.machine := by
  rw [h.rest]

theorem OnlyRecorded.cwd (h : w.OnlyRecorded w') : w'.cwd = w.cwd := by
  rw [h.rest]

theorem OnlyRecorded.trans (h : w.OnlyRecorded w') (h' : w'.OnlyRecorded w'') :
    w.OnlyRecorded w'' where
  grown := h.grown.trans (h.log ▸ h'.grown)
  rest := by
    rw [h'.rest, h.rest]

/-- A record that a handler could not write changes the error stream alone. -/
theorem onlyRecorded_lost (r : Log.Record) (w : World) : w.OnlyRecorded (w.lost r) :=
  ⟨.refl _ _, rfl⟩

/-- A delivery to a handler is part of recording. -/
theorem onlyRecorded_deliver {handler : Log.Handler} (h : handler ∈ w.log.handlers)
    (r : Log.Record) : w.OnlyRecorded (w.deliver r handler) := by
  cases handler with
  | stream pattern =>
    rw [deliver]
    split
    · exact ⟨.refl _ _, rfl⟩
    · exact onlyRecorded_lost r w
  | display => exact .refl w
  | file id least =>
    have hid : id ∈ w.log.fileIds := List.mem_filterMap.mpr ⟨_, h, rfl⟩
    rw [deliver]
    split
    · split
      · exact ⟨FileTree.grown_append hid _ _, rfl⟩
      · exact onlyRecorded_lost r w
    · exact .refl w

/-- A delivery to several handlers is part of recording. -/
theorem onlyRecorded_foldl_deliver (r : Log.Record) (handlers : List Log.Handler) (w : World)
    (h : ∀ handler ∈ handlers, handler ∈ w.log.handlers) :
    w.OnlyRecorded (handlers.foldl (deliver r) w) := by
  induction handlers generalizing w with
  | nil => exact .refl w
  | cons handler handlers ih =>
    have hfirst := onlyRecorded_deliver (h handler List.mem_cons_self) r
    refine hfirst.trans (ih _ ?_)
    intro other hother
    rw [hfirst.log]
    exact h other (List.mem_cons_of_mem _ hother)

/-- A message changes the log files, the error stream and the journal alone. -/
theorem onlyRecorded_recordedPoints (w : World) (logger : String) (level : Level)
    (points : Text.CodePoints) : w.OnlyRecorded (w.recordedPoints logger level points) := by
  have hjournal : w.OnlyRecorded (if Log.inFamily logger then
      { w with journal := w.journal ++ [(level.name, Text.printed points)] } else w) := by
    split
    · exact ⟨.refl _ _, rfl⟩
    · exact .refl w
  unfold recordedPoints
  split
  · dsimp only
    -- The journal comes first; what follows starts in the world with the longer journal.
    refine hjournal.trans ?_
    generalize (if Log.inFamily logger then
      { w with journal := w.journal ++ [(level.name, Text.printed points)] } else w) = w₁
    split
    · exact ⟨.refl _ _, rfl⟩
    · exact onlyRecorded_foldl_deliver _ _ _ fun _ h => h
  · exact .refl w

/-- A message is recorded, and nothing else happens. -/
theorem onlyRecorded_recorded (w : World) (logger : String) (level : Level) (message : String) :
    w.OnlyRecorded (w.recorded logger level message) :=
  onlyRecorded_recordedPoints w logger level _

@[simp] theorem recorded_pending : (w.recorded logger level message).pending = w.pending :=
  (onlyRecorded_recorded w logger level message).pending

@[simp] theorem recorded_cwd : (w.recorded logger level message).cwd = w.cwd :=
  (onlyRecorded_recorded w logger level message).cwd

@[simp] theorem recorded_log : (w.recorded logger level message).log = w.log :=
  (onlyRecorded_recorded w logger level message).log

@[simp] theorem recorded_calls : (w.recorded logger level message).calls = w.calls := by
  rw [(onlyRecorded_recorded w logger level message).rest]

/-! ## The journal -/

/-- A delivery tells nothing by itself. -/
theorem journal_deliver (r : Log.Record) (handler : Log.Handler) (w : World) :
    (w.deliver r handler).journal = w.journal := by
  cases handler with
  | stream pattern =>
    rw [deliver]
    split
    · rfl
    · rfl
  | display => rfl
  | file id least =>
    rw [deliver]
    split
    · split
      · rfl
      · rfl
    · rfl

/-- A delivery to several handlers tells nothing by itself. -/
theorem journal_foldl_deliver (r : Log.Record) (handlers : List Log.Handler) (w : World) :
    (handlers.foldl (deliver r) w).journal = w.journal := by
  induction handlers generalizing w with
  | nil => rfl
  | cons handler handlers ih => rw [List.foldl_cons, ih, journal_deliver]

/-- A message of the family that is recorded comes into the journal, and then to the handlers. -/
theorem recordedPoints_of_inFamily (h : Log.inFamily logger = true)
    (hl : w.log.records level = true) :
    w.recordedPoints logger level points
      = w.log.handlers.foldl (deliver (w.record logger level points))
        { w with journal := w.journal ++ [(level.name, Text.printed points)] } := by
  rw [recordedPoints, if_pos hl, if_pos h]
  dsimp only
  rw [h, Bool.not_true, Bool.and_false, Bool.false_and, if_neg Bool.false_ne_true]

/-- It is the last of the journal then. -/
theorem journal_recorded (h : Log.inFamily logger = true) (hl : w.log.records level = true) :
    (w.recorded logger level message).journal = w.journal ++ [(level.name, message)] := by
  rw [recorded, recordedPoints_of_inFamily h hl, journal_foldl_deliver, Text.printed_codePoints]

end World

end Downlevel
