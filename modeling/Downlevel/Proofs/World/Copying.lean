import Downlevel.Proofs.FileTree.Changes
import Downlevel.Proofs.FileTree.Names
import Downlevel.Proofs.World.Frame
/-!
# Copied files

The directories above a file are made, and then a file is copied there. A copying that fails leaves
every file as it was; at most there are new directories. One that ends well puts the bytes of the one
file into the other, and changes no third one.
-/
namespace Downlevel

namespace World

/-! ## New directories -/

/-- The tree changed at most, and all that is new in it are directories. -/
structure AddsDirectories (w w' : World) : Prop where
  onlyTree : w.OnlyTree w'
  breaks : w'.breaks = w.breaks
  tree : w.tree.AddsDirectories w'.tree

instance : Std.Refl AddsDirectories :=
  ⟨fun w => ⟨rfl, rfl, .refl w.tree⟩⟩

instance : IsTrans World AddsDirectories :=
  ⟨fun _ _ _ h h' => ⟨IsTrans.trans _ _ _ h.onlyTree h'.onlyTree, h'.breaks.trans h.breaks,
    h.tree.trans h'.tree⟩⟩

theorem OnlyTree.cwd {w w' : World} (h : w.OnlyTree w') : w'.cwd = w.cwd := by
  rw [h]

theorem OnlyTree.log {w w' : World} (h : w.OnlyTree w') : w'.log = w.log := by
  rw [h]

end World

namespace Files

/-- Making the directories of a path adds directories at most. -/
theorem within_makeDirectoriesOf_adds (p : Path) :
    (makeDirectoriesOf p).Within World.AddsDirectories :=
  within_makeDirectories_of
    (fun _ _ _ h => ⟨rfl, rfl, FileTree.addsDirectories_of_makeDirectory h⟩) _ p

/-! ## Copying -/

/-- The result of a copying whose write was begun. -/
def copyResult (source target : Path) : Option Break → Except Failure Unit
  | none => .ok ()
  | some b => .error ⟨copyFault source target b, []⟩

/-- A file is read, and the bytes are written to another one, all or up to a break. A refusal changes
nothing. -/
theorem runIn_read_write (source target : Path) (w : World) :
    (read source >>= fun bytes => writeOr (copyFault source target) target bytes).runIn w
      = match w.tree.read w.cwd source with
        | .error e => (.error (failure e source), w)
        | .ok bytes =>
          match w.tree.write w.cwd w.freshId target (kept bytes (nextBreak w)) with
          | .error e => (.error (failure e target), w)
          | .ok tree =>
            (copyResult source target (nextBreak w), { w with tree, breaks := w.breaks.tail }) := by
  rw [Action.runIn_bind, runIn_read]
  cases w.tree.read w.cwd source with
  | error e => rfl
  | ok bytes =>
    dsimp only [refused]
    rw [runIn_writeOr]
    cases w.tree.write w.cwd w.freshId target (kept bytes (nextBreak w)) with
    | error e => rfl
    | ok tree => cases nextBreak w <;> rfl

/-- A copying is refused, or the bytes are written as far as the next write goes. -/
theorem runIn_copy (source target : Path) (w : World) :
    (∃ e, (copy source target).runIn w = (.error e, w)) ∨
    ∃ bytes tree, w.tree.read w.cwd source = .ok bytes ∧
      w.tree.write w.cwd w.freshId target (kept bytes (nextBreak w)) = .ok tree ∧
      (copy source target).runIn w
        = (copyResult source target (nextBreak w), { w with tree, breaks := w.breaks.tail }) := by
  have hcopied : (∃ e, (read source >>= fun bytes =>
        writeOr (copyFault source target) target bytes).runIn w = (.error e, w)) ∨
      ∃ bytes tree, w.tree.read w.cwd source = .ok bytes ∧
        w.tree.write w.cwd w.freshId target (kept bytes (nextBreak w)) = .ok tree ∧
        (read source >>= fun bytes => writeOr (copyFault source target) target bytes).runIn w
          = (copyResult source target (nextBreak w), { w with tree, breaks := w.breaks.tail }) := by
    rw [runIn_read_write]
    cases w.tree.read w.cwd source with
    | error e => exact Or.inl ⟨_, rfl⟩
    | ok bytes =>
      dsimp only
      cases htree : w.tree.write w.cwd w.freshId target (kept bytes (nextBreak w)) with
      | error e => exact Or.inl ⟨_, rfl⟩
      | ok tree => exact Or.inr ⟨bytes, tree, rfl, htree, rfl⟩
  -- The check for the same file refuses the copy, or is passed.
  unfold copy
  rw [Action.runIn_bind_ok (Action.runIn_get w)]
  dsimp only
  split
  · split
    · exact Or.inl ⟨_, rfl⟩
    · exact hcopied
  · exact hcopied

/-- A file is copied into a directory that is made first, with all above it. -/
def copyInto (source target : Path) : Action Unit := do
  makeDirectoriesOf target.parent
  copy source target

/-- A path leads to a file with some bytes, and no other file differs between two worlds. -/
def Written (p : Path) (bytes : List UInt8) (w v : World) : Prop :=
  ∃ place id x, v.tree.locate v.cwd true p = .ok place ∧
    v.tree.find? place = some (.file id x bytes) ∧ w.OnlyTree v ∧ w.tree.OnlyFile v.tree place

/-- What was written is read. -/
theorem Written.read {p : Path} {bytes : List UInt8} {w v : World} (h : Written p bytes w v) :
    v.tree.read v.cwd p = .ok bytes := by
  obtain ⟨place, id, x, hplace, hfile, -⟩ := h
  exact FileTree.read_eq_ok.mpr ⟨place, id, x, hplace, hfile⟩

/-- A file that can be read is copied as far as the next write goes, or at most directories were
made. -/
theorem runIn_copyInto {source : Path} {w : World} {bytes : List UInt8}
    (hread : w.tree.read w.cwd source = .ok bytes) (target : Path) :
    (∃ e v, (copyInto source target).runIn w = (.error e, v) ∧ w.AddsDirectories v) ∨
    ∃ v, (copyInto source target).runIn w = (copyResult source target (nextBreak w), v) ∧
      Written target (kept bytes (nextBreak w)) w v := by
  unfold copyInto
  rw [Action.runIn_bind]
  rcases hmake : (makeDirectoriesOf target.parent).runIn w with ⟨e | ⟨⟩, u⟩
  · exact Or.inl ⟨e, u, rfl, (within_makeDirectoriesOf_adds target.parent).of_runIn hmake⟩
  have hmade := (within_makeDirectoriesOf_adds target.parent).of_runIn hmake
  have hnext : nextBreak u = nextBreak w := by rw [nextBreak, hmade.breaks, nextBreak]
  rcases runIn_copy source target u with ⟨e, hcopy⟩ | ⟨bytes', tree, hread', hwrite, hcopy⟩
  · exact Or.inl ⟨e, u, hcopy, hmade⟩
  · -- The new directories do not hide the file that is read.
    rw [hmade.onlyTree.cwd, hmade.tree.read hread] at hread'
    cases hread'
    rw [hnext] at hwrite hcopy
    obtain ⟨place, id, x, hplace, hfile, honly⟩ :=
      FileTree.written (fun q id x b h => World.ne_freshId h) hwrite
    exact Or.inr ⟨_, hcopy, place, id, x, hplace, hfile, IsTrans.trans _ _ _ hmade.onlyTree rfl,
      hmade.tree.onlyFile honly⟩

/-- A directory is made at a vacant place. -/
theorem runIn_makeDirectoriesOf_of_vacant {p : Path} {w : World} {place : Place}
    (hplace : w.tree.locate w.cwd false p = .ok place) (hvacant : w.tree.find? place = none) :
    (makeDirectoriesOf p).runIn w = (.ok ⟨⟩, { w with tree := w.tree.put place .directory }) := by
  have hmade : w.tree.makeDirectory w.cwd p = .ok (w.tree.put place .directory) := by
    rw [FileTree.makeDirectory, hplace]
    dsimp only
    rw [hvacant]
  unfold makeDirectoriesOf makeDirectories
  cases p.names.length
  all_goals
    rw [Action.runIn_bind_ok (Action.runIn_get w), hmade]
    rfl

/-- Nothing is made where something stands. That is a refusal unless the path leads to a directory. -/
theorem runIn_makeDirectoriesOf_of_taken {p : Path} {w : World} {place : Place} {n : Node}
    (hplace : w.tree.locate w.cwd false p = .ok place) (htaken : w.tree.find? place = some n) :
    (makeDirectoriesOf p).runIn w = (unlessDirectory .exists p).runIn w := by
  have hexists : w.tree.makeDirectory w.cwd p = .error .exists := by
    rw [FileTree.makeDirectory, hplace]
    dsimp only
    rw [htaken]
  unfold makeDirectoriesOf makeDirectories
  cases p.names.length
  all_goals rw [Action.runIn_bind_ok (Action.runIn_get w), hexists]

/-- A refusal to make a directory is none where a directory is. -/
theorem runIn_unlessDirectory {e : Errno} {p : Path} {w : World} {found : Bool}
    (h : w.tree.isDirectory w.cwd p = .ok found) :
    (unlessDirectory e p).runIn w = (if found then .ok () else .error (failure e p), w) := by
  unfold unlessDirectory
  rw [Action.runIn_bind_ok (Action.runIn_get w), h,
    Action.runIn_bind_ok (show (Action.ofExcept (refused p (.ok found))).runIn w = (.ok found, w) from rfl)]
  cases found <;> rfl

/-- A directory that is there is not made. -/
theorem runIn_makeDirectoriesOf_of_directory {p : Path} {w : World} {place : Place}
    (hplace : w.tree.locate w.cwd false p = .ok place)
    (hdirectory : w.tree.find? place = some .directory) :
    (makeDirectoriesOf p).runIn w = (.ok ⟨⟩, w) := by
  have hfollow : w.tree.locate w.cwd true p = .ok place := by
    apply FileTree.locate_follow hplace
    rw [hdirectory]
    exact nofun
  have hthere : w.tree.isDirectory w.cwd p = .ok true :=
    FileTree.isDirectory_iff.mpr ⟨place, hfollow, hdirectory⟩
  rw [runIn_makeDirectoriesOf_of_taken hplace hdirectory, runIn_unlessDirectory hthere, if_pos rfl]

/-- A file is copied over another one, if nothing breaks the write off. -/
theorem runIn_copy_of_files {source target : Path} {w : World} {a b : Place} {i j : Nat}
    {x y : Bool} {bytes old : List UInt8} (ha : w.tree.locate w.cwd true source = .ok a)
    (hsource : w.tree.find? a = some (.file i x bytes))
    (hb : w.tree.locate w.cwd true target = .ok b) (htarget : w.tree.find? b = some (.file j y old))
    (hne : a ≠ b) (hbreaks : nextBreak w = none) :
    ∃ v, (copy source target).runIn w = (.ok ⟨⟩, v) := by
  have hread : w.tree.read w.cwd source = .ok bytes :=
    FileTree.read_eq_ok.mpr ⟨a, i, x, ha, hsource⟩
  have hwrite : ∃ tree, w.tree.write w.cwd w.freshId target bytes = .ok tree := by
    rw [FileTree.write, FileTree.openForWriting, hb]
    dsimp only
    rw [htarget]
    exact ⟨_, rfl⟩
  obtain ⟨tree, hwrite⟩ := hwrite
  -- Both ends are files at different places, so what is left is to read and to write.
  have hcopied := runIn_read_write source target w
  rw [hread, hbreaks] at hcopied
  dsimp only [kept] at hcopied
  rw [hwrite] at hcopied
  refine ⟨_, Eq.trans ?_ hcopied⟩
  unfold copy
  rw [Action.runIn_bind_ok (Action.runIn_get w)]
  dsimp only
  rw [ha, hb]
  simp only [hsource, htarget, Option.isSome_some, if_true]
  rw [if_neg hne]

end Files

end Downlevel
