import Downlevel.Proofs.ClasspathFile.Pending
import Downlevel.Proofs.FileTree.Descent
import Downlevel.Proofs.FileTree.Names
import Downlevel.Proofs.Text.Encoding
import Downlevel.Proofs.Text.Paths
import Downlevel.Proofs.World.Copying
/-!
# All or nothing

A classpath file is written in full under a new name, or the disk and the pending files are as they
were. The names that are tried differ, and there are more of them than the tree has nodes, so one of
them is not taken; a directory takes one more file unless that name is refused. Then only an entry that
has no form in bytes is in the way, wherever it stands among the entries, or the system breaks the
writing off.
-/
namespace Downlevel

/-! ## Names of temporary files -/

/-- Numbers that are padded with zeros to a width are told apart. -/
theorem Decimal.padDigits_injective (width : Nat) : Function.Injective (padDigits width) := by
  intro n m h
  have hvalue := congrArg (fun s => Nat.ofDigitChars 10 s.toList 0) h
  simpa [padDigits, Nat.ofDigitChars_append, Nat.ofDigitChars_replicate_zero,
    Nat.ofDigitChars_toDigits] using hvalue

namespace ClasspathFile

/-- Different numbers give different names. -/
theorem fileName_injective : Function.Injective fileName := by
  intro n m h
  rw [fileName, fileName, String.append_left_inj, String.append_right_inj] at h
  exact Decimal.padDigits_injective 8 h

/-- The characters of a name: a fixed front, the number with zeros before it, and a fixed end. -/
theorem toList_fileName (n : Nat) : (fileName n).toList = 'r' :: ("etrolambda".toList
    ++ (List.replicate (8 - (Nat.toDigits 10 n).length) '0' ++ Nat.toDigits 10 n)
    ++ "classpath".toList) := by
  simp [fileName, Decimal.padDigits]

/-- A character that is neither a digit nor in the fixed parts of a name is not in the name. -/
theorem not_mem_fileName {c : Char} (hdigit : c.isDigit = false)
    (hfixed : c ∉ "retrolambdaclasspath".toList) (n : Nat) : c ∉ (fileName n).toList := by
  have hdigits : c ∉ Nat.toDigits 10 n := fun hmem => by
    rw [Nat.isDigit_of_mem_toDigits (by omega) (by omega) hmem] at hdigit
    cases hdigit
  have hzero : c ≠ '0' := by
    rintro rfl
    cases hdigit
  simpa [fileName, Decimal.padDigits, hdigits, hzero] using hfixed

/-- The name of a classpath file is one name, not a path. -/
theorem slash_not_mem_fileName (n : Nat) : '/' ∉ (fileName n).toList :=
  not_mem_fileName (by decide) (by decide) n

theorem null_not_mem_fileName (n : Nat) : '\x00' ∉ (fileName n).toList :=
  not_mem_fileName (by decide) (by decide) n

/-- What begins with another letter is not the name of a classpath file. -/
theorem fileName_ne {n : Nat} {s : String} (h : s.toList.head? ≠ some 'r') : fileName n ≠ s := by
  rintro rfl
  exact h (by rw [toList_fileName, List.head?_cons])

/-- The file with a number is below a directory under its name. -/
theorem child_fileName (directory : Path) (n : Nat) :
    directory.child (fileName n) = ⟨directory.anchor, directory.names ++ [fileName n]⟩ := by
  have hempty : fileName n ≠ "" := fileName_ne (by decide)
  have hdot : fileName n ≠ "." := fileName_ne (by decide)
  exact Path.child_of_name ⟨hempty, hdot, slash_not_mem_fileName n⟩ directory

/-! ## Room for one more file -/

/-- A new file goes where its path is absolute. -/
theorem isAbsolute_of_directoryIn {directory : Option Path} {w : World} {d : Path}
    (h : directoryIn w directory = .ok d) : d.isAbsolute = true := by
  unfold directoryIn at h
  split at h
  · cases h
    exact Path.isAbsolute_join (FileTree.pathOf w.cwd) _
  · cases h

/-- A directory takes one more file: the first name in it that is not taken is not refused. -/
def Admits (w : World) (d : Path) : Prop :=
  ∃ n tree, FirstFree w d n (.ok tree)

/-- There is a directory for new files, and it takes one more. -/
def HasRoom (w : World) (directory : Option Path) : Prop :=
  ∃ d, directoryIn w directory = .ok d ∧ Admits w d

section

variable {w : World} {d p : Path} {place : Place}

/-- There is one first free number, so what becomes of it is one thing. -/
theorem FirstFree.unique {n m : Nat} {r s : Except Errno FileTree} (hn : FirstFree w d n r)
    (hm : FirstFree w d m s) : r = s := by
  rcases Nat.lt_trichotomy n m with h | h | h
  · exact absurd (hn.outcome.symm.trans (hm.taken n hn.later h)) hn.free
  · subst h
    exact hn.outcome.symm.trans hm.outcome
  · exact absurd (hm.outcome.symm.trans (hn.taken m hm.later h)) hm.free

/-- Where a file can be made under one name, not all of many names are taken. -/
theorem not_taken_of_create {n : Nat} {tree : FileTree} (hd : d.isAbsolute = true)
    (h : w.tree.create w.cwd w.freshId (d.child (fileName n)) = .ok tree) (start : Nat)
    (htaken : ∀ k < w.tree.nodes.length + 1, w.tree.create w.cwd w.freshId
      (d.child (fileName (start + k))) = .error .exists) : False := by
  have hdots (k : Nat) : fileName k ≠ "." ∧ fileName k ≠ ".." :=
    ⟨fileName_ne (by decide), fileName_ne (by decide)⟩
  obtain ⟨q, hq, -, -⟩ := FileTree.create_eq_ok h
  rw [child_fileName, FileTree.locate_concat_eq_ok hd (hdots n).1 (hdots n).2] at hq
  obtain ⟨-, place, hplace, hdirectory, hopen, -⟩ := hq
  have hclosed : w.tree.closed.lookup place = none := (Option.or_eq_none_iff.mp hopen).1
  have hne (k : Nat) : place ++ [fileName (start + k)] ≠ [] := by simp
  have hinjective : Function.Injective fun k => place ++ [fileName (start + k)] := by
    intro k l hkl
    have hname := List.singleton_inj.mp (List.append_cancel_left hkl)
    exact Nat.add_left_cancel (fileName_injective hname)
  -- The names that were tried would be more nodes than there are.
  have hlength := FileTree.le_length_of_taken hne hinjective fun k hk => by
    have hk' := htaken k hk
    rw [child_fileName] at hk'
    exact FileTree.find?_of_create_exists hd (hdots _).1 (hdots _).2 hplace hdirectory hclosed hk'
  omega

/-- What takes a file is a directory. -/
theorem Admits.isDirectory (h : Admits w d) (hd : d.isAbsolute = true) :
    w.tree.isDirectory w.cwd d = .ok true := by
  obtain ⟨n, tree, hfree⟩ := h
  obtain ⟨q, hq, -, -⟩ := FileTree.create_eq_ok hfree.outcome
  rw [child_fileName, FileTree.locate_concat_eq_ok hd (fileName_ne (by decide))
    (fileName_ne (by decide))] at hq
  obtain ⟨hfits, place, hplace, hdirectory, -, -⟩ := hq
  refine FileTree.isDirectory_iff.mpr ⟨place, FileTree.locate_eq_ok.mpr ⟨?_, ?_⟩, hdirectory⟩
  · exact FileTree.pathRefusal?_of_descend [fileName n] hfits
  · rw [if_pos hd]
    exact hplace

/-- A directory takes a file if no name in it is refused. -/
theorem admits_of_isDirectory (h : w.tree.isDirectory w.cwd d = .ok true) (hd : d.isAbsolute = true)
    (hfits : ∀ n, FileTree.pathRefusal? (d.child (fileName n)) = none)
    (hopen : ∀ place n, w.tree.find? place = some .directory →
      w.tree.refusal? place (fileName n) = none) : Admits w d := by
  obtain ⟨place, hplace, hdirectory⟩ := FileTree.isDirectory_iff.mp h
  obtain ⟨-, hwalk⟩ := FileTree.locate_eq_ok.mp hplace
  rw [if_pos hd] at hwalk
  have hnames (n : Nat) : w.tree.locate w.cwd false (d.child (fileName n))
      = .ok (place ++ [fileName n]) := by
    have hfit := hfits n
    rw [child_fileName] at hfit ⊢
    exact (FileTree.locate_concat_eq_ok hd (fileName_ne (by decide)) (fileName_ne (by decide))).mpr
      ⟨hfit, place, hwalk, hdirectory, hopen place n hdirectory, rfl⟩
  rcases runIn_create d (w.tree.nodes.length + 1) w with
    ⟨n, tree, hfree, -⟩ | ⟨n, e, hfree, -⟩ | ⟨htaken, -⟩
  · exact ⟨n, tree, hfree⟩
  · -- No name is refused but for being taken.
    cases hnode : w.tree.find? (place ++ [fileName n]) with
    | none =>
      have hcreate := hfree.outcome
      rw [FileTree.create_of_vacant (hnames n) hnode] at hcreate
      cases hcreate
    | some node =>
      have hexists := FileTree.create_of_taken (hnames n)
        (by rw [hnode]; exact Option.some_ne_none node) w.freshId
      exact absurd (hfree.outcome.symm.trans hexists) hfree.free
  · -- The names that were tried are not all taken, as there are more of them than nodes.
    have hinjective : Function.Injective
        fun k => place ++ [fileName (w.temporaryFiles + 1 + k)] := fun k l hkl =>
      Nat.add_left_cancel (fileName_injective (List.singleton_inj.mp (List.append_cancel_left hkl)))
    have hlength := FileTree.le_length_of_taken (t := w.tree) (by simp) hinjective
      fun k hk hvacant => by
        have hk' := htaken k hk
        rw [FileTree.create_of_vacant (hnames _) hvacant] at hk'
        cases hk'
    omega

variable {directory : Option Path}

/-- Where there is room, a file is made there under a new name. -/
theorem runIn_make_of_hasRoom (h : HasRoom w directory) :
    ∃ d n tree, directoryIn w directory = .ok d ∧
      (make directory).runIn w = (.ok (d.child (fileName n)),
        addPending (d.child (fileName n)) { w with tree, temporaryFiles := n }) ∧
      w.tree.create w.cwd w.freshId (d.child (fileName n)) = .ok tree := by
  obtain ⟨d, hdirectory, m, tree', hadmits⟩ := h
  rcases runIn_create d (w.tree.nodes.length + 1) w with
    ⟨n, tree, hfree, hrun⟩ | ⟨n, e, hfree, -⟩ | ⟨htaken, -⟩
  · refine ⟨d, n, tree, hdirectory, ?_, hfree.outcome⟩
    unfold make
    rw [Action.runIn_bind_ok (Action.runIn_get w), Action.runIn_bind, Action.runIn_orFail,
      Action.runIn_bind, Action.runIn_ofExcept, hdirectory]
    dsimp only
    rw [hrun]
    rfl
  · cases hfree.unique hadmits
  · exact (not_taken_of_create (isAbsolute_of_directoryIn hdirectory) hadmits.outcome _ htaken).elim

/-- Where there is none, the refusal is a fault of the classpath file, and a number may be used up. -/
theorem runIn_make_of_not_hasRoom
    (hnull : ∀ d, directoryIn w directory = .ok d → d.hasNull = false)
    (h : ¬ HasRoom w directory) :
    ∃ e n, (make directory).runIn w = (.error e, { w with temporaryFiles := n }) ∧
      e.fault.name = "ClasspathFileError" := by
  unfold make
  rw [Action.runIn_bind_ok (Action.runIn_get w), Action.runIn_bind, Action.runIn_orFail,
    Action.runIn_bind, Action.runIn_ofExcept]
  cases hdirectory : directoryIn w directory with
  | error e =>
    have hos : e.fault.isOs = true := by
      unfold directoryIn at hdirectory
      split at hdirectory
      · cases hdirectory
      · cases hdirectory
        decide
    dsimp only
    rw [if_pos hos]
    exact ⟨_, w.temporaryFiles, rfl, rfl⟩
  | ok d =>
    dsimp only
    rcases runIn_create d (w.tree.nodes.length + 1) w with
      ⟨n, tree, hfree, -⟩ | ⟨n, e, -, hrun⟩ | ⟨-, e, n, hrun, hos⟩
    · exact absurd ⟨d, hdirectory, n, tree, hfree⟩ h
    · rw [hrun]
      -- A file name has no null byte, so the system refuses the path by itself.
      have hchild : (d.child (fileName n)).hasNull = false := by
        rw [child_fileName, Path.hasNull, List.any_append]
        simpa [Path.hasNull, null_not_mem_fileName n] using hnull d hdirectory
      have hos : (Files.failure e (d.child (fileName n))).fault.isOs = true := by
        simp [Files.failure, hchild, Fault.isOs]
      dsimp only
      rw [if_pos hos]
      exact ⟨_, n, rfl, rfl⟩
    · rw [hrun]
      dsimp only
      rw [if_pos hos]
      exact ⟨_, n, rfl, rfl⟩

/-! ## Entries in bytes -/

/-- The entries have a form in bytes unless one of them has a surrogate, and it is that of the entries
with line feeds between them. -/
theorem encodeUtf8_contents {entries : List Text.CodePoints} {bytes : List UInt8} :
    Text.encodeUtf8 (contents entries) = .ok bytes ↔
      (∀ entry ∈ entries, ∀ c ∈ entry, Text.isSurrogate c = false) ∧
        bytes = [0x0a].intercalate (entries.map (List.flatMap Text.encodePoint)) := by
  have hbytes : (contents entries).flatMap Text.encodePoint
      = [0x0a].intercalate (entries.map (List.flatMap Text.encodePoint)) :=
    Text.flatMap_intercalate Text.encodePoint _ entries
  rw [Text.encodeUtf8_eq_ok_iff, hbytes]
  refine and_congr_left fun _ => ⟨?_, ?_⟩
  · intro h entry hentry c hc
    exact h c (Text.mem_intercalate _ hentry hc)
  · -- A character of the contents is a line feed or one of an entry.
    intro h c hc
    by_cases hsurrogate : Text.isSurrogate c = true
    · refine absurd hc (Text.not_mem_intercalate ?_ ?_)
      · rintro hfeed
        rw [List.mem_singleton.mp hfeed] at hsurrogate
        exact absurd hsurrogate (by decide)
      · intro entry hentry hc
        rw [h entry hentry c hc] at hsurrogate
        cases hsurrogate
    · exact Bool.eq_false_iff.mpr hsurrogate

/-! ## Writing -/

/-- A new file of a directory holds entries, is pending, and is the one thing that changed. -/
structure Written (entries : List Text.CodePoints) (directory : Option Path) (w : World) (p : Path)
    (w' : World) : Prop where
  parent : directoryIn w directory = .ok p.parent
  vacant : w.Vacant p
  contents : w'.tree.read w'.cwd p
    = .ok ([0x0a].intercalate (entries.map (List.flatMap Text.encodePoint)))
  /-- For entries that are strings these are the bytes that the library gives the joined text. -/
  texts : ∀ texts : List String, entries = texts.map Text.codePoints →
    w'.tree.read w'.cwd p = .ok ("\n".intercalate texts).toUTF8.data.toList
  added : ∃ place bytes, w.tree.locate w.cwd false p = .ok place ∧
    w.tree.AddsFile w'.tree place bytes
  pending : w'.pending = w.pending ++ [p]
  rest : ∃ n breaks, w' = { w with tree := w'.tree, breaks, temporaryFiles := n, pending := w'.pending }

variable {entries : List Text.CodePoints}

/-- What is in the way of a new file: there is no room for one, an entry has a surrogate, or the system
breaks the writing off. -/
def Hindered (entries : List Text.CodePoints) (directory : Option Path) (w : World) : Prop :=
  ¬ HasRoom w directory ∨ (∃ entry ∈ entries, ∃ c ∈ entry, Text.isSurrogate c = true) ∨
    ∃ b, Files.nextBreak w = some b

/-- A file that was not pending is added and dropped without a trace. -/
theorem drop_add (h : p ∉ w.pending) : dropPending p (addPending p w) = w := by
  calc dropPending p (addPending p w)
      = { w with pending := (dropPending p (addPending p w)).pending } := rfl
    _ = w := by rw [pending_drop_add h]

/-- If something is in the way, nothing is written. -/
theorem runIn_write_of_hindered
    (hnull : ∀ d, directoryIn w directory = .ok d → d.hasNull = false)
    (hnew : ∀ p, ((make directory).runIn w).1 = .ok p → p ∉ w.pending)
    (h : Hindered entries directory w) :
    ∃ e n breaks, (write entries directory).runIn w
        = (.error e, { w with temporaryFiles := n, breaks }) ∧
      e.fault.name = "ClasspathFileError" := by
  by_cases hroom : HasRoom w directory
  · obtain ⟨d, n, tree, -, hmake, hcreate⟩ := runIn_make_of_hasRoom hroom
    have hp := hnew _ (by rw [hmake])
    -- There is room, so that a surrogate or a break is what hinders.
    cases hbytes : Text.encodeUtf8 (contents entries) with
    | error run =>
      have hrun := runIn_write_of_refused hmake hcreate hbytes
      rw [drop_add (w := { w with temporaryFiles := n }) hp] at hrun
      exact ⟨_, n, w.breaks, hrun, rfl⟩
    | ok bytes =>
      rcases h with hroom' | ⟨entry, hentry, c, hc, hsurrogate⟩ | ⟨b, hnext⟩
      · exact absurd hroom hroom'
      · rw [(encodeUtf8_contents.mp hbytes).1 entry hentry c hc] at hsurrogate
        cases hsurrogate
      · have hrun := runIn_write_of_broken hmake hcreate hbytes hnext
        rw [drop_add (w := { w with temporaryFiles := n, breaks := w.breaks.tail }) hp] at hrun
        exact ⟨_, n, w.breaks.tail, hrun, rfl⟩
  · obtain ⟨e, n, hmake, hname⟩ := runIn_make_of_not_hasRoom hnull hroom
    exact ⟨e, n, w.breaks, runIn_write_of_make_error hmake, hname⟩

/-- If nothing is in the way, the entries are written. -/
theorem runIn_write_of_not_hindered
    (hnew : ∀ p, ((make directory).runIn w).1 = .ok p → p ∉ w.pending)
    (h : ¬ Hindered entries directory w) :
    ∃ p w', (write entries directory).runIn w = (.ok p, w') ∧ Written entries directory w p w' := by
  rw [Hindered, not_or, not_or, not_not] at h
  obtain ⟨hroom, hentries, hbreaks⟩ := h
  obtain ⟨d, n, tree, hdirectory, hmake, hcreate⟩ := runIn_make_of_hasRoom hroom
  have hp := hnew _ (by rw [hmake])
  have hplain : ∀ entry ∈ entries, ∀ c ∈ entry, Text.isSurrogate c = false := by
    intro entry hentry c hc
    exact Bool.eq_false_iff.mpr fun h => hentries ⟨entry, hentry, c, hc, h⟩
  have hnext : Files.nextBreak w = none :=
    Option.eq_none_iff_forall_ne_some.mpr fun b hb => hbreaks ⟨b, hb⟩
  -- Without surrogates the entries have an encoding.
  have hbytes := encodeUtf8_contents.mpr ⟨hplain, rfl⟩
  obtain ⟨filled, fresh, hrun, hfile, hwrite⟩ := runIn_write_of_bytes hmake hcreate hbytes hnext
  refine ⟨_, _, hrun, ?_, (holdsFile_of_create (n := n) hcreate).1, hfile.read, ?_, ?_,
    pending_addPending_of_not_mem hp, n, w.breaks.tail, rfl⟩
  · rw [hdirectory, child_fileName, Path.parent, List.dropLast_concat]
  · rintro texts rfl
    have htext := hbytes
    rw [contents_codePoints, Text.encodeUtf8_codePoints, Text.utf8_eq_toUTF8] at htext
    rw [hfile.read, Except.ok.inj htext]
  · obtain ⟨place, hplace, hadded⟩ :=
      FileTree.addsFile_of_create_write (fun q i x b hq => World.ne_freshId hq) hcreate hwrite
    exact ⟨place, _, hplace, hadded⟩

end

/-- A machine with a directory for temporary files and another file pending. -/
def busyMachine : World :=
  { emptyMachine with pending := [⟨.root, ["tmp", "other"]⟩] }

theorem hasPlace_busyMachine : HasPlace busyMachine :=
  ⟨rfl, rfl, by decide, by decide, rfl⟩

theorem directoryIn_busyMachine : directoryIn busyMachine none = .ok ⟨.root, ["tmp"]⟩ := rfl

/-- There is room for a file in the directory for temporary files of the machine. -/
theorem hasRoom_busyMachine : HasRoom busyMachine none := by
  have hcreate := hasPlace_busyMachine.create
  have hname : (⟨.root, ["tmp"]⟩ : Path).child (fileName 1) = firstFile := by
    rw [show fileName 1 = "retrolambda00000001classpath" by decide]
    cbv
  exact ⟨_, directoryIn_busyMachine, 1, _, firstFree_next (hname ▸ hcreate) (by simp)⟩

/-- A path by way of a directory that is not there. -/
def missingParent : Path := ⟨.root, ["missing", ".."]⟩

/-- The system makes no file under any name at that path. -/
theorem create_missingParent (n : Nat) : ∃ e, emptyMachine.tree.create emptyMachine.cwd
    emptyMachine.freshId (missingParent.child (fileName n)) = .error e := by
  rw [child_fileName]
  have hlocate : ∃ e, emptyMachine.tree.locate emptyMachine.cwd false
      ⟨.root, [] ++ "missing" :: ["..", fileName n]⟩ = .error e := by
    cases hfits : FileTree.pathRefusal? ⟨.root, [] ++ "missing" :: ["..", fileName n]⟩ with
    | some e => exact ⟨e, by rw [FileTree.locate, hfits]⟩
    | none =>
      exact ⟨.noEntry, FileTree.locate_of_missing _ hfits (by decide) (by decide)
        (fun k hk => absurd hk (Nat.not_lt_zero k)) (by decide) (List.cons_ne_nil _ _)⟩
  obtain ⟨e, he⟩ := hlocate
  exact ⟨e, FileTree.create_of_refused he _⟩

end ClasspathFile

end Downlevel
