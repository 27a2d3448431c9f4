import Mathlib.Data.List.Forall2
import Downlevel.Proofs.FileTree.Descent
import Downlevel.Proofs.FileTree.Links
import Downlevel.Proofs.Settings.SetUp
import Downlevel.Proofs.Text.Paths
/-!
# The handlers of a log that was set up

The log that a set-up leaves is told by its settings alone: the level, one handler for people who
watch, and one for the log file, if there is one. The file is the one that the full path of the setting
leads to. So a set-up that comes after others leaves the handlers that it leaves without them.
-/
namespace Downlevel

/-- Related options stay related by what follows from the relation. -/
theorem rel_imp {α β : Type} {R S : α → β → Prop} {x? : Option α} {y? : Option β}
    (h : Option.Rel R x? y?) (himp : ∀ x ∈ x?, ∀ y ∈ y?, R x y → S x y) : Option.Rel S x? y? := by
  cases h with
  | some hxy => exact .some (himp _ rfl _ rfl hxy)
  | none => exact .none

/-- A path leads to the file with an identity. -/
def World.LeadsTo (w : World) (p : Path) (id : Nat) : Prop :=
  ∃ x bytes, w.tree.status w.cwd p = .ok (.file id x bytes)

namespace Logging

variable {s : LoggingSettings} {w w' v : World} {id? : Option Nat}

/-! ## What a set-up leaves -/

/-- The path of a log file seen from the root, with its two dots worked out on the text alone. -/
def fullPath (cwd : Place) (p : Path) : Path :=
  (p.under (FileTree.pathOf cwd)).normalized

/-- The path of a log file is worked out once, from where the setup happens. -/
theorem isAbsolute_fullPath (cwd : Place) (p : Path) : (fullPath cwd p).isAbsolute = true :=
  Path.isAbsolute_under (FileTree.isAbsolute_pathOf cwd) p

/-- The working directory is where its names say: all of them are directories on the way, and are not
closed to a look. -/
structure InPlace (w : World) : Prop where
  plain : ∀ n ∈ w.cwd, n ≠ "." ∧ n ≠ ".."
  opened : w.tree.Open [] w.cwd
  directory : ∀ k < w.cwd.length, w.tree.find? (w.cwd.take (k + 1)) = some .directory

/-- Without two dots a path leads where its full path leads. -/
theorem locate_fullPath (hw : InPlace w) {p : Path} (hp : ".." ∉ p.names)
    (hfits : FileTree.pathRefusal? (fullPath w.cwd p) = none) :
    w.tree.locate w.cwd true (fullPath w.cwd p) = w.tree.locate w.cwd true p := by
  by_cases habsolute : p.isAbsolute = true
  · rw [fullPath, Path.under_of_isAbsolute habsolute, Path.normalized_of_not_mem hp]
  · obtain ⟨anchor, names⟩ := p
    cases anchor with
    | here =>
      have hnames : ".." ∉ w.cwd ++ names := by
        intro hmem
        rcases List.mem_append.mp hmem with hcwd | hmem
        · exact (hw.plain _ hcwd).2 rfl
        · exact hp hmem
      have hfull : fullPath w.cwd ⟨.here, names⟩ = ⟨.root, w.cwd ++ names⟩ := by
        rw [fullPath, show Path.under ⟨.here, names⟩ (FileTree.pathOf w.cwd)
          = ⟨.root, w.cwd ++ names⟩ from rfl, Path.normalized_of_not_mem hnames]
      rw [hfull] at hfits ⊢
      rw [FileTree.locate_of_fits hfits,
        FileTree.locate_of_fits (FileTree.pathRefusal?_of_ascend hfits)]
      -- The way from the root goes over the working directory first.
      exact FileTree.walk_directories _ hw.opened hw.plain hw.directory names
    | root => exact absurd rfl habsolute
    | doubleRoot => exact absurd rfl habsolute

/-- The handler for people who watch. -/
def watching (s : LoggingSettings) : Log.Handler :=
  if s.rich then .display else .stream (patternOf s)

/-- The handlers of settings, with the identity of the log file. -/
def handlersOf (s : LoggingSettings) (id? : Option Nat) : List Log.Handler :=
  watching s :: id?.toList.map fun id => .file id s.level

/-- The log is as settings want it: nothing is left of what was set up before. -/
structure IsSetUp (s : LoggingSettings) (id? : Option Nat) (w : World) : Prop where
  log : w.log = ⟨s.level, handlersOf s id?⟩
  file : Option.Rel (fun p id => w.LeadsTo (fullPath w.cwd p) id) s.file id?

/-- The handler of the stream is the one that the settings ask for, and nothing is done for it. -/
theorem runIn_watcher {h : Log.Handler} (hrun : (watcher s).runIn w = (.ok h, w')) :
    h = watching s ∧ w' = w := by
  unfold watcher at hrun
  unfold watching
  by_cases hrich : s.rich = true
  · rw [if_pos hrich] at hrun ⊢
    cases hrun
    exact ⟨rfl, rfl⟩
  · rw [if_neg hrich] at hrun ⊢
    split at hrun
    · cases hrun
      exact ⟨rfl, rfl⟩
    · cases hrun

/-- With an accepted pattern there is a handler of the stream. -/
theorem runIn_watcher_of_accepted (h : Log.accepted (patternOf s).toList = true) (w : World) :
    (watcher s).runIn w = (.ok (watching s), w) := by
  unfold watcher watching
  rw [if_pos h]
  split <;> rfl

/-- A log file is open at the end of its full path. -/
theorem runIn_openFile {p : Path} {level : Level} {h : Log.Handler}
    (hrun : (openFile p level).runIn w = (.ok h, w')) :
    ∃ id, h = .file id level ∧ w'.LeadsTo (fullPath w'.cwd p) id ∧ w'.log = w.log := by
  obtain ⟨⟨⟩, v, hmade, hrun⟩ := Action.runIn_bind_eq_ok hrun
  have honly := (Files.within_makeDirectoriesOf_adds p.parent).of_runIn hmade
  rw [Action.runIn_bind_ok (Action.runIn_view _ v)] at hrun
  obtain ⟨id, u, hopened, hrun⟩ := Action.runIn_bind_eq_ok hrun
  cases hrun
  -- The file was opened in the tree with the new directories.
  unfold Files.openForAppending at hopened
  rw [Action.runIn_bind_ok (Action.runIn_get v), Action.runIn_bind, Action.runIn_ofExcept] at hopened
  cases hopen : v.tree.openForWriting v.cwd v.freshId false (fullPath v.cwd p) with
  | error e =>
    unfold fullPath at hopen
    rw [hopen] at hopened
    cases hopened
  | ok opened =>
    obtain ⟨⟨place, x, bytes, hplace, hfile⟩, -, -⟩ := FileTree.opened hopen
    unfold fullPath at hopen
    rw [hopen] at hopened
    cases hopened
    refine ⟨opened.1, rfl, ⟨x, bytes, ?_⟩, honly.onlyTree.log⟩
    show opened.2.status v.cwd (fullPath v.cwd p) = _
    exact FileTree.status_eq_ok.mpr ⟨place, hplace, hfile⟩

/-- A set-up that ends well leaves the log as its settings want it. -/
theorem runIn_setUp (h : (setUp s).runIn w = (.ok ⟨⟩, w')) : ∃ id?, IsSetUp s id? w' := by
  unfold setUp at h
  rw [Action.runIn_bind_ok (Action.runIn_modify _ w)] at h
  obtain ⟨handler, u, hwatch, h⟩ := Action.runIn_bind_eq_ok h
  obtain ⟨rfl, rfl⟩ := runIn_watcher hwatch
  obtain ⟨⟨⟩, v, hadd, h⟩ := Action.runIn_bind_eq_ok h
  have hlog : v.log = ⟨s.level, [watching s]⟩ := by
    cases hadd
    rfl
  -- A log file is opened last, and its handler comes behind that of the stream.
  cases hfile : s.file with
  | none =>
    rw [hfile] at h
    cases h
    exact ⟨none, hlog, hfile ▸ .none⟩
  | some p =>
    rw [hfile] at h
    obtain ⟨file, u', hopen, hadd'⟩ := Action.runIn_bind_eq_ok h
    obtain ⟨id, rfl, hleads, hkept⟩ := runIn_openFile hopen
    cases hadd'
    refine ⟨some id, ?_, hfile ▸ .some hleads⟩
    show Log.Setup.mk u'.log.level (u'.log.handlers ++ [.file id s.level]) = _
    rw [hkept, hlog]
    rfl

/-- With a log file a set-up goes on by opening it. -/
theorem runIn_setUp_of_some (haccepted : Log.accepted (patternOf s).toList = true) {p : Path}
    (hfile : s.file = some p) (w : World) :
    (setUp s).runIn w
      = (openFile p s.level >>= add).runIn { w with log := ⟨s.level, handlersOf s none⟩ } := by
  unfold setUp
  rw [Action.runIn_bind_ok (Action.runIn_modify _ w),
    Action.runIn_bind_ok (runIn_watcher_of_accepted haccepted _), hfile]
  exact Action.runIn_bind_ok (Action.runIn_modify _ _) _

/-- With its directories made and its path writable a log file is opened. -/
theorem runIn_openFile_of_made {p : Path}
    (hmade : (Files.makeDirectoriesOf p.parent).runIn w = (.ok ⟨⟩, v)) {id : Nat} {tree : FileTree}
    (hopen : v.tree.openForWriting v.cwd v.freshId false (fullPath v.cwd p) = .ok (id, tree))
    (level : Level) : (openFile p level).runIn w = (.ok (.file id level), { v with tree }) := by
  unfold fullPath at hopen
  unfold openFile
  rw [Action.runIn_bind_ok hmade, Action.runIn_bind_ok (Action.runIn_view _ v)]
  unfold Files.openForAppending
  rw [Action.runIn_bind, Action.runIn_bind_ok (Action.runIn_get v), hopen]
  rfl

/-- A set-up ends well if the directories above the log file can be made and it can be opened. -/
theorem runIn_setUp_of_made (haccepted : Log.accepted (patternOf s).toList = true) {p : Path}
    (hfile : s.file = some p)
    (hmade : (Files.makeDirectoriesOf p.parent).runIn { w with log := ⟨s.level, handlersOf s none⟩ }
      = (.ok ⟨⟩, v)) {id : Nat} {tree : FileTree}
    (hopen : v.tree.openForWriting v.cwd v.freshId false (fullPath v.cwd p) = .ok (id, tree)) :
    (setUp s).runIn w = (.ok ⟨⟩, { v with tree, log := ⟨s.level, handlersOf s (some id)⟩ }) := by
  have hlog : v.log = ⟨s.level, handlersOf s none⟩ :=
    ((Files.within_makeDirectoriesOf_adds _).of_runIn hmade).onlyTree.log
  rw [runIn_setUp_of_some haccepted hfile,
    Action.runIn_bind_ok (runIn_openFile_of_made hmade hopen s.level), add, Action.runIn_modify]
  dsimp only
  rw [hlog]
  rfl

/-- If the directories cannot be made, a set-up fails; the handler for people who watch is there. -/
theorem runIn_setUp_of_refused (haccepted : Log.accepted (patternOf s).toList = true) {p : Path}
    (hfile : s.file = some p) {e : Failure}
    (hmade : (Files.makeDirectoriesOf p.parent).runIn { w with log := ⟨s.level, handlersOf s none⟩ }
      = (.error e, v)) :
    (setUp s).runIn w = (.error e, v) := by
  have hopen : (openFile p s.level).runIn { w with log := ⟨s.level, handlersOf s none⟩ }
      = (.error e, v) := by
    unfold openFile
    rw [Action.runIn_bind, hmade]
  rw [runIn_setUp_of_some haccepted hfile, Action.runIn_bind, hopen]

/-- The log is set up from given settings, or else from those of the program. -/
theorem runIn_setUpFrom {given : Option LoggingSettings}
    (h : (setUpFrom given).runIn w = (.ok ⟨⟩, w'))
    (hs : given.or (w'.settings.map Settings.logging) = some s) : ∃ id?, IsSetUp s id? w' := by
  cases given with
  | some s' =>
    cases hs
    exact runIn_setUp h
  | none =>
    obtain ⟨settings, v, hcurrent, hrun⟩ := Action.runIn_bind_eq_ok h
    have hkept : w'.settings = v.settings := (within_setUp_settings _).of_runIn hrun
    rw [hkept, Settings.settings_of_current hcurrent] at hs
    cases hs
    exact runIn_setUp hrun

/-! ## What a set-up keeps -/

/-- No link comes or goes, and the working directory stays. -/
def KeepsLinks (w w' : World) : Prop :=
  w.tree.SameLinks w'.tree ∧ w'.cwd = w.cwd

instance : Std.Refl KeepsLinks :=
  ⟨fun w => ⟨.refl w.tree, rfl⟩⟩

instance : IsTrans World KeepsLinks :=
  ⟨fun _ _ _ h h' => ⟨h.1.trans h'.1, h'.2.trans h.2⟩⟩

theorem within_setUp_keepsLinks (s : LoggingSettings) : (setUp s).Within KeepsLinks := by
  apply within_setUp_of
  · exact fun w log => ⟨.refl w.tree, rfl⟩
  · exact fun w w' h => ⟨h.tree.sameLinks, h.onlyTree.cwd⟩
  · exact fun w p id tree h => ⟨(FileTree.opened h).2.2, rfl⟩

theorem within_setUpFrom_keepsLinks (given : Option LoggingSettings) :
    (setUpFrom given).Within KeepsLinks := by
  have hcurrent : Settings.current.Within KeepsLinks := by
    apply Settings.within_current_of
    · exact fun w w' h => ⟨h.grown.sameShape.sameLinks, h.cwd⟩
    · exact fun w s => ⟨.refl w.tree, rfl⟩
  cases given with
  | some s => exact within_setUp_keepsLinks s
  | none => exact hcurrent.bind fun s => within_setUp_keepsLinks s.logging

/-! ## Logs that are set up alike -/

/-- Two handlers in two worlds do the same. The files that they write to stand at the same place. -/
inductive SameHandler (w w' : World) : Log.Handler → Log.Handler → Prop
  | stream (pattern : String) : SameHandler w w' (.stream pattern) (.stream pattern)
  | display : SameHandler w w' .display .display
  | file {place : Place} {id id' : Nat} {x x' : Bool} {bytes bytes' : List UInt8}
      (hfile : w.tree.find? place = some (.file id x bytes))
      (hfile' : w'.tree.find? place = some (.file id' x' bytes')) (level : Level) :
      SameHandler w w' (.file id level) (.file id' level)

/-- The logs of two worlds have the same level, and handlers that do the same. -/
structure SameLog (w w' : World) : Prop where
  level : w'.log.level = w.log.level
  handlers : List.Forall₂ (SameHandler w w') w.log.handlers w'.log.handlers

/-- A path that leads to files in two worlds with the same links leads to the same place in both. -/
theorem KeepsLinks.exists_place (h : w.tree.SameLinks w'.tree) {p : Path} {id id' : Nat}
    (hp : p.isAbsolute = true) (hleads : w.LeadsTo p id) (hleads' : w'.LeadsTo p id') :
    ∃ place x bytes x' bytes', w.tree.find? place = some (.file id x bytes) ∧
      w'.tree.find? place = some (.file id' x' bytes') := by
  obtain ⟨x, bytes, hstatus⟩ := hleads
  obtain ⟨x', bytes', hstatus'⟩ := hleads'
  obtain ⟨place, hplace, hfile⟩ := FileTree.status_eq_ok.mp hstatus
  obtain ⟨place', hplace', hfile'⟩ := FileTree.status_eq_ok.mp hstatus'
  have hway := (FileTree.locate_eq_ok.mp hplace).2
  have hway' := (FileTree.locate_eq_ok.mp hplace').2
  rw [if_pos hp] at hway hway'
  rw [h.walk_unique _ _ _ hway hway'] at hfile'
  exact ⟨place, x, bytes, x', bytes', hfile, hfile'⟩

/-- Logs that were set up from the same settings in worlds with the same links are alike. -/
theorem IsSetUp.sameLog {id?' : Option Nat} (h : IsSetUp s id? w) (h' : IsSetUp s id?' w')
    (hlinks : w.tree.SameLinks w'.tree) (hcwd : w'.cwd = w.cwd) : SameLog w w' := by
  refine ⟨by rw [h.log, h'.log], ?_⟩
  have hwatching : SameHandler w w' (watching s) (watching s) := by
    unfold watching
    split
    · exact .display
    · exact .stream _
  rw [h.log, h'.log]
  -- The files have the same identity as both paths lead to one place.
  refine .cons hwatching ?_
  have hrel := h.file
  have hrel' := h'.file
  rw [hcwd] at hrel'
  revert hrel hrel'
  generalize s.file = file?
  rintro (hleads | _) hrel'
  · cases hrel' with
    | some hleads' =>
      obtain ⟨place, x, bytes, x', bytes', hfile, hfile'⟩ :=
        KeepsLinks.exists_place hlinks (isAbsolute_fullPath _ _) hleads hleads'
      exact .cons (.file hfile hfile' s.level) .nil
  · cases hrel'
    exact .nil

end Logging

end Downlevel
