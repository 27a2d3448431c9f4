import Downlevel.Proofs.FileTree.Entry
/-!
# New directories and written files

What a tree becomes when directories are made in it, and when one file is written. Every node stays
but that of the file, and what was vacant stays vacant, or gets a directory, or the file. So every
path that leads to something leads there still.
-/
namespace Downlevel.FileTree

variable {t t' t'' : FileTree} {cwd : Place} {p : Path} {bytes : List UInt8}

/-! ## Files at the ends of paths -/

/-- What is found through links is found in every tree that keeps the ways, unless a link stands
there now. -/
theorem locate_of_keepsWays_follow (h : t.KeepsWays t') {place : Place}
    (hp : t.locate cwd true p = .ok place) (hlink : ∀ target, t'.find? place ≠ some (.link target)) :
    t'.locate cwd true p = .ok place :=
  locate_mono h (f := true) id (fun _ => hlink) hp

/-- A path has a status if and only if it leads to a place where something stands. -/
theorem status_eq_ok {n : Node} : t.status cwd p = .ok n ↔ ∃ place,
    t.locate cwd true p = .ok place ∧ t.find? place = some n := by
  unfold status
  cases t.locate cwd true p with
  | error e => exact ⟨nofun, fun ⟨_, h, _⟩ => nomatch h⟩
  | ok place =>
    dsimp only
    constructor
    · intro h
      refine ⟨place, rfl, ?_⟩
      cases hnode : t.find? place with
      | none =>
        rw [hnode] at h
        cases h
      | some n' =>
        rw [hnode] at h
        cases h
        rfl
    · rintro ⟨_, ⟨⟩, hnode⟩
      rw [hnode]

/-- The file at the end of a path is what is read. -/
theorem read_eq_ok_iff_status : t.read cwd p = .ok bytes ↔ ∃ id x,
    t.status cwd p = .ok (.file id x bytes) := by
  unfold read
  constructor
  · intro h
    rcases hstatus : t.status cwd p with e | (⟨id, x, b⟩ | _ | target)
    · rw [hstatus] at h
      cases h
    · rw [hstatus] at h
      cases h
      exact ⟨id, x, rfl⟩
    · rw [hstatus] at h
      cases h
    · rw [hstatus] at h
      cases h
  · rintro ⟨id, x, hstatus⟩
    rw [hstatus]

/-- A path that is read leads to a file. -/
theorem read_eq_ok : t.read cwd p = .ok bytes ↔ ∃ place id x,
    t.locate cwd true p = .ok place ∧ t.find? place = some (.file id x bytes) := by
  rw [read_eq_ok_iff_status]
  constructor
  · rintro ⟨id, x, hstatus⟩
    obtain ⟨place, hplace, hfile⟩ := status_eq_ok.mp hstatus
    exact ⟨place, id, x, hplace, hfile⟩
  · rintro ⟨place, id, x, hplace, hfile⟩
    exact ⟨id, x, status_eq_ok.mpr ⟨place, hplace, hfile⟩⟩

/-! ## Looks -/

/-- A look finds a file exactly where one can be read. -/
theorem isFile_iff : t.isFile cwd p = .ok true ↔ ∃ bytes, t.read cwd p = .ok bytes := by
  unfold isFile look read
  rcases t.status cwd p with e | (⟨id, x, b⟩ | _ | target)
  · cases h : e.isAbsence <;> simp [h, Except.map]
  · exact ⟨fun _ => ⟨b, rfl⟩, fun _ => rfl⟩
  · simp [Except.map]
  · simp [Except.map]

/-! ## New directories -/

/-- All that is new in a tree are directories at places that were vacant. -/
structure AddsDirectories (t t' : FileTree) : Prop where
  closed : t'.closed = t.closed
  node : ∀ q, t'.find? q = t.find? q ∨ t.find? q = none ∧ t'.find? q = some .directory

theorem AddsDirectories.refl (t : FileTree) : t.AddsDirectories t :=
  ⟨rfl, fun _ => Or.inl rfl⟩

/-- What stood somewhere stands there still. -/
theorem AddsDirectories.find? (h : t.AddsDirectories t') {q : Place} {n : Node}
    (hn : t.find? q = some n) : t'.find? q = some n := by
  rcases h.node q with hq | ⟨hq, -⟩
  · rw [hq, hn]
  · rw [hn] at hq
    cases hq

/-- What is no directory was there before. -/
theorem AddsDirectories.find?_of_ne (h : t.AddsDirectories t') {q : Place} {n : Node}
    (hn : t'.find? q = some n) (hne : n ≠ .directory) : t.find? q = some n := by
  rcases h.node q with hq | ⟨-, hq⟩
  · rw [← hq, hn]
  · rw [hn] at hq
    exact absurd (Option.some.inj hq) hne

theorem AddsDirectories.trans (h : t.AddsDirectories t') (h' : t'.AddsDirectories t'') :
    t.AddsDirectories t'' := by
  refine ⟨h'.closed.trans h.closed, fun q => ?_⟩
  rcases h.node q with hq | ⟨hvacant, hq⟩
  · rw [← hq]
    exact h'.node q
  · exact Or.inr ⟨hvacant, h'.find? hq⟩

/-- New directories block no way. -/
theorem AddsDirectories.keepsWays (h : t.AddsDirectories t') : t.KeepsWays t' :=
  ⟨h.closed, fun _ => h.find?, fun _ _ => h.find?⟩

/-- A file that a path leads to is there still, and so is the way to it. -/
theorem AddsDirectories.locate_file (h : t.AddsDirectories t') {place : Place} {id : Nat} {x : Bool}
    (hp : t.locate cwd true p = .ok place) (hfile : t.find? place = some (.file id x bytes)) :
    t'.locate cwd true p = .ok place ∧ t'.find? place = some (.file id x bytes) := by
  have hfile' := h.find? hfile
  refine ⟨locate_of_keepsWays_follow h.keepsWays hp ?_, hfile'⟩
  intro target hlink
  rw [hfile'] at hlink
  cases hlink

theorem AddsDirectories.read (h : t.AddsDirectories t') (hr : t.read cwd p = .ok bytes) :
    t'.read cwd p = .ok bytes := by
  obtain ⟨place, id, x, hp, hfile⟩ := read_eq_ok.mp hr
  obtain ⟨hp', hfile'⟩ := h.locate_file hp hfile
  exact read_eq_ok.mpr ⟨place, id, x, hp', hfile'⟩

/-- Making a directory adds that directory. -/
theorem addsDirectories_of_makeDirectory (h : t.makeDirectory cwd p = .ok t') :
    t.AddsDirectories t' := by
  unfold makeDirectory at h
  split at h
  · cases h
  · rename_i place hplace
    split at h
    · rename_i hvacant
      cases h
      have hroot : place ≠ [] := ne_root_of_find? (by rw [hvacant]; exact nofun)
      refine ⟨rfl, fun q => ?_⟩
      by_cases hq : q = place
      · subst hq
        exact Or.inr ⟨hvacant, find?_put_self hroot⟩
      · exact Or.inl (find?_put_of_ne hq _)
    · cases h

/-! ## One written file -/

/-- Two places have the same file. -/
def SameFile (t : FileTree) (q q' : Place) : Prop :=
  ∃ id x bytes x' bytes',
    t.find? q = some (.file id x bytes) ∧ t.find? q' = some (.file id x' bytes')

/-- A tree that differs from another in the file at a place alone, but for new directories. -/
structure OnlyFile (t t' : FileTree) (place : Place) : Prop where
  closed : t'.closed = t.closed
  kept : ∀ q n, t.find? q = some n → ¬ t.SameFile q place → t'.find? q = some n
  new : ∀ q, t.find? q = none → t'.find? q = none ∨ t'.find? q = some .directory ∨ q = place

variable {place : Place}

/-- A file that is written blocks no way. -/
theorem OnlyFile.keepsWays (h : t.OnlyFile t' place) : t.KeepsWays t' := by
  -- Ways are made of directories and links, and those are no files.
  have hkept : ∀ q n, t.find? q = some n → (∀ id x bytes, n ≠ .file id x bytes) →
      t'.find? q = some n := by
    intro q n hn hno
    refine h.kept q n hn ?_
    rintro ⟨id, x, b, -, -, hfile, -⟩
    rw [hn] at hfile
    exact hno id x b (Option.some.inj hfile)
  exact ⟨h.closed, fun q hq => hkept q _ hq nofun, fun q _ hq => hkept q _ hq nofun⟩

/-- Directories that were made before the file was written. -/
theorem AddsDirectories.onlyFile (h : t.AddsDirectories t') (h' : t'.OnlyFile t'' place) :
    t.OnlyFile t'' place where
  closed := h'.closed.trans h.closed
  kept := by
    intro q n hn hother
    refine h'.kept q n (h.find? hn) ?_
    rintro ⟨id, x, b, x', b', hq, hplace⟩
    exact hother ⟨id, x, b, x', b', h.find?_of_ne hq nofun, h.find?_of_ne hplace nofun⟩
  new := by
    intro q hq
    rcases h.node q with hsame | ⟨-, hdirectory⟩
    · exact h'.new q (by rw [hsame, hq])
    · exact Or.inr (Or.inl (h'.keepsWays.directory q hdirectory))

/-- A file is opened at the place that its path leads to: the file that stands there, or a new one. -/
theorem openForWriting_eq_ok {fresh id : Nat} {emptied : Bool}
    (h : t.openForWriting cwd fresh emptied p = .ok (id, t')) : ∃ place x old,
    t.locate cwd true p = .ok place ∧
    (t.find? place = none ∧ id = fresh ∧ old = [] ∨ t.find? place = some (.file id x old)) ∧
    t' = t.put place (.file id x (if emptied then [] else old)) := by
  unfold openForWriting at h
  cases hplace : t.locate cwd true p with
  | error e =>
    rw [hplace] at h
    cases h
  | ok place =>
    rw [hplace] at h
    dsimp only at h
    -- At the place there is nothing, or a file, or what cannot be opened.
    cases hnode : t.find? place with
    | none =>
      rw [hnode] at h
      cases h
      exact ⟨place, false, [], rfl, Or.inl ⟨hnode, rfl, rfl⟩, by rw [ite_self]⟩
    | some n =>
      rw [hnode] at h
      cases n with
      | file i x old =>
        cases h
        exact ⟨place, x, old, rfl, Or.inr hnode, by split <;> rfl⟩
      | directory => cases h
      | link target => cases h

/-- A new file is opened at a vacant place. -/
theorem openForWriting_of_vacant {place : Place} (hplace : t.locate cwd true p = .ok place)
    (hvacant : t.find? place = none) (fresh : Nat) (emptied : Bool) :
    t.openForWriting cwd fresh emptied p = .ok (fresh, t.put place (.file fresh false [])) := by
  rw [openForWriting, hplace]
  dsimp only
  rw [hvacant]

/-- A file is written at the place that its path leads to: over the file that stands there, or as a
new one. -/
theorem write_eq_ok {fresh : Nat} (h : t.write cwd fresh p bytes = .ok t') : ∃ place id x,
    t.locate cwd true p = .ok place ∧
    (t.find? place = none ∧ id = fresh ∨ ∃ old, t.find? place = some (.file id x old)) ∧
    t' = (t.put place (.file id x [])).append id bytes := by
  unfold write at h
  cases hopen : t.openForWriting cwd fresh true p with
  | error e =>
    rw [hopen] at h
    cases h
  | ok opened =>
    rw [hopen] at h
    cases h
    obtain ⟨place, x, old, hplace, hbefore, htree⟩ := openForWriting_eq_ok hopen
    refine ⟨place, opened.1, x, hplace, ?_, congrArg (append · opened.1 bytes) htree⟩
    exact hbefore.imp (fun h => ⟨h.1, h.2.1⟩) fun h => ⟨old, h⟩

/-- A node with an identity that no other file has is put at the place of a file with that identity, or
at a vacant one, and gets its bytes: nothing else changes. -/
theorem onlyFile_put_append {id : Nat} {x : Bool}
    (hplace : ∀ n, t.find? place = some n → t.SameFile place place)
    (hid : ∀ q y b, t.find? q = some (.file id y b) → t.SameFile q place) :
    t.OnlyFile ((t.put place (.file id x [])).append id bytes) place := by
  have hother : ∀ q ≠ place, ((t.put place (.file id x [])).append id bytes).find? q
      = (t.find? q).map (Node.extended id bytes) := by
    intro q hq
    rw [find?_append, find?_put_of_ne hq]
  refine ⟨rfl, ?_, ?_⟩
  · intro q n hn hdiffers
    have hq : q ≠ place := by
      rintro rfl
      exact hdiffers (hplace n hn)
    rw [hother q hq, hn, Option.map_some]
    cases n with
    | file i y b =>
      -- Only files with the identity of the place are appended to.
      have hi : i ≠ id := by
        rintro rfl
        exact hdiffers (hid q y b hn)
      rw [Node.extended, if_neg hi]
    | directory => rfl
    | link target => rfl
  · intro q hq
    by_cases heq : q = place
    · exact Or.inr (Or.inr heq)
    · rw [hother q heq, hq]
      exact Or.inl rfl

/-- A written file has the bytes that were written, at the place that its path led to before and leads
to still; nothing else changed. -/
theorem written {fresh : Nat} (hfresh : ∀ q id x b, t.find? q = some (.file id x b) → id ≠ fresh)
    (h : t.write cwd fresh p bytes = .ok t') : ∃ place id x,
      t'.locate cwd true p = .ok place ∧ t'.find? place = some (.file id x bytes) ∧
      t.OnlyFile t' place := by
  obtain ⟨place, id, x, hplace, hbefore, rfl⟩ := write_eq_ok h
  have hroot : place ≠ [] := by
    rintro rfl
    rcases hbefore with ⟨hnone, -⟩ | ⟨old, hold⟩
    · exact nomatch hnone
    · exact nomatch hold
  have hfile : ((t.put place (.file id x [])).append id bytes).find? place
      = some (.file id x bytes) :=
    find?_append_self (find?_put_self hroot) bytes
  have honly : t.OnlyFile ((t.put place (.file id x [])).append id bytes) place := by
    -- Other places with the identity: none for a new file, and those of the same file for an old one.
    rcases hbefore with ⟨hnone, rfl⟩ | ⟨old, hold⟩
    · refine onlyFile_put_append ?_ fun q y b hq => absurd rfl (hfresh q id y b hq)
      intro n hn
      rw [hnone] at hn
      cases hn
    · exact onlyFile_put_append (fun n _ => ⟨id, x, old, x, old, hold, hold⟩)
        fun q y b hq => ⟨id, y, b, x, old, hq, hold⟩
  refine ⟨place, id, x, locate_of_keepsWays_follow honly.keepsWays hplace ?_, hfile, honly⟩
  intro target hlink
  rw [hfile] at hlink
  cases hlink

end Downlevel.FileTree
