import Downlevel.Proofs.Artifact.Acquisition
import Downlevel.Proofs.FileTree.Descent
/-!
# The layout of a local repository

An artifact lies below the root of a local repository, in a directory for each segment of its group,
one for its name and one for its version. The name of its file does not tell where the name of the
artifact ends, but the directories do. So no two artifacts lie at the same path, and in a repository
without links nothing that is copied for one artifact is the file of another.
-/
namespace Downlevel

namespace Coordinates

/-- The name of the file of an artifact. -/
def fileName (c : Coordinates) : String :=
  c.artifact ++ "-" ++ c.version ++ ".jar"

/-- The names from the root of a local repository to an artifact. -/
def layout (c : Coordinates) : List String :=
  Text.parts '.' c.group ++ [c.artifact, c.version, c.fileName]

/-- Coordinates in which all is named: the group is made of names with dots between them, and the
artifact and the version are names too. -/
structure WellFormed (c : Coordinates) : Prop where
  group : ∃ segments, segments ≠ [] ∧ ".".intercalate segments = c.group ∧
    ∀ s ∈ segments, Path.IsName s ∧ '.' ∉ s.toList
  artifact : Path.IsName c.artifact
  version : Path.IsName c.version

variable {c d : Coordinates} {root : Path}

/-! ## Names -/

/-- What stands between the dots of a group are its segments. -/
theorem WellFormed.parts (h : c.WellFormed) : ∀ s ∈ Text.parts '.' c.group, Path.IsName s := by
  obtain ⟨segments, hne, hgroup, hsegments⟩ := h.group
  have hparts : Text.parts '.' (".".intercalate segments) = segments :=
    Text.parts_intercalate (fun s hs => (hsegments s hs).2) hne
  rw [← hgroup, hparts]
  exact fun s hs => (hsegments s hs).1

/-- The letters of a file name: the artifact, a hyphen, the version and the ending. -/
theorem toList_fileName (c : Coordinates) :
    c.fileName.toList = c.artifact.toList ++ '-' :: (c.version.toList ++ ".jar".toList) := by
  rw [fileName, String.toList_append, String.toList_append, String.toList_append, List.append_assoc,
    List.append_assoc]
  rfl

/-- The file of an artifact has a name, since the hyphen in it is in none of the texts that are no
names. -/
theorem WellFormed.fileName (h : c.WellFormed) : Path.IsName c.fileName := by
  have hhyphen : '-' ∈ c.fileName.toList := by
    rw [toList_fileName]
    exact List.mem_append_right _ List.mem_cons_self
  have hne : ∀ s : String, '-' ∉ s.toList → c.fileName ≠ s := by
    rintro s hs rfl
    exact hs hhyphen
  refine ⟨hne "" (by decide), hne "." (by decide), hne ".." (by decide), ?_⟩
  rw [toList_fileName, List.mem_append, List.mem_cons, List.mem_append]
  rintro (hslash | hslash | hslash | hslash)
  · exact h.artifact.no_slash hslash
  · exact absurd hslash (by decide)
  · exact h.version.no_slash hslash
  · exact absurd hslash (by decide)

/-- All names in the layout of well-formed coordinates are names. -/
theorem WellFormed.layout (h : c.WellFormed) : ∀ n ∈ c.layout, Path.IsName n := by
  intro n hn
  rcases List.mem_append.mp hn with hn | hn
  · exact h.parts n hn
  · simp only [List.mem_cons, List.not_mem_nil, or_false] at hn
    rcases hn with rfl | rfl | rfl
    · exact h.artifact
    · exact h.version
    · exact h.fileName

/-- No layout is empty. -/
theorem layout_ne_nil (c : Coordinates) : c.layout ≠ [] :=
  List.append_ne_nil_of_right_ne_nil _ (List.cons_ne_nil _ _)

/-! ## Paths -/

/-- The names of an artifact tell its coordinates. -/
theorem layout_injective : Function.Injective layout := by
  rintro ⟨group, artifact, version⟩ ⟨group', artifact', version'⟩ h
  -- Groups may differ in length, so the lists are cut where the last three names begin.
  obtain ⟨hparts, hlast⟩ := List.append_inj' h rfl
  have hgroup : group = group' := by
    rw [← Text.intercalate_parts '.' group, ← Text.intercalate_parts '.' group']
    exact congrArg _ hparts
  simp only [List.cons.injEq] at hlast
  obtain ⟨rfl, rfl, -⟩ := hlast
  rw [hgroup]

/-- An artifact lies at its names below the root. -/
theorem WellFormed.pathIn_eq (h : c.WellFormed) (root : Path) :
    c.pathIn root = root.descend c.layout := by
  rw [← Path.foldl_child h.layout, Coordinates.layout, List.foldl_append]
  rfl

/-- An artifact lies below the root of its store. -/
theorem WellFormed.isBelow_pathIn (h : c.WellFormed) (root : Path) : (c.pathIn root).IsBelow root :=
  ⟨c.layout, layout_ne_nil c, h.layout, h.pathIn_eq root⟩

/-- Artifacts with the same path are the same. -/
theorem pathIn_eq_iff (hc : c.WellFormed) (hd : d.WellFormed) :
    c.pathIn root = d.pathIn root ↔ c = d := by
  rw [hc.pathIn_eq, hd.pathIn_eq]
  exact ((Path.descend_injective root).comp layout_injective).eq_iff

/-! ## Places -/

/-- Without links in the repository an artifact stands below the place of the root, at its names. -/
theorem WellFormed.locate_pathIn (h : c.WellFormed) {t : FileTree} {cwd place : Place}
    (hlinks : t.NoLinksFrom cwd root) (hplace : t.locate cwd true (c.pathIn root) = .ok place) :
    ∃ base, t.locate cwd true root = .ok base ∧ place = base ++ c.layout := by
  rw [h.pathIn_eq] at hplace
  exact FileTree.locate_descend hlinks (layout_ne_nil c) h.layout hplace

/-- Then no two artifacts stand at the same place. -/
theorem eq_of_locate_pathIn (hc : c.WellFormed) (hd : d.WellFormed) {t : FileTree}
    {cwd place : Place} (hlinks : t.NoLinksFrom cwd root)
    (hplace : t.locate cwd true (c.pathIn root) = .ok place)
    (hplace' : t.locate cwd true (d.pathIn root) = .ok place) : c = d := by
  obtain ⟨base, hbase, rfl⟩ := hc.locate_pathIn hlinks hplace
  obtain ⟨base', hbase', hsame⟩ := hd.locate_pathIn hlinks hplace'
  rw [hbase] at hbase'
  cases hbase'
  exact layout_injective (List.append_cancel_left hsame)

/-- The bytes of the file at a place are at the end of a path afterwards. -/
def CopiedTo (destination : Path) (w v : World) (place : Place) : Prop :=
  ∃ id x bytes, w.tree.find? place = some (.file id x bytes) ∧
    v.tree.read v.cwd destination = .ok bytes

/-- An artifact lies strictly below the root of the repository, and no two artifacts lie at the same
path. What is copied for an artifact are the bytes of the file that its path leads to; in a repository
without links that file is below the root too, and no path of another artifact leads to it. -/
theorem pathIn_separates (root : Path) (hc : c.WellFormed) (hd : d.WellFormed) :
    (c.pathIn root).IsBelow root ∧
    (c.pathIn root = d.pathIn root ↔ c = d) ∧
    ∀ {w v : World} {destination : Path},
      (Repository.copyFrom root c destination).runIn w = (.ok ⟨⟩, v) →
      ∃ place, w.tree.locate w.cwd true (c.pathIn root) = .ok place ∧
        CopiedTo destination w v place ∧
        (w.tree.NoLinksFrom w.cwd root →
          (∃ base, w.tree.locate w.cwd true root = .ok base ∧
            FileTree.isBelow place base = true) ∧
          (w.tree.locate w.cwd true (d.pathIn root) = .ok place → c = d)) := by
  refine ⟨hc.isBelow_pathIn root, pathIn_eq_iff hc hd, ?_⟩
  intro w v destination hrun
  obtain ⟨bytes, hread, hcopied⟩ := Repository.exists_bytes_of_copyFrom hrun
  obtain ⟨place, id, x, hplace, hfile⟩ := FileTree.read_eq_ok.mp hread
  refine ⟨place, hplace, ⟨id, x, bytes, hfile, hcopied⟩, fun hlinks => ⟨?_, ?_⟩⟩
  · obtain ⟨base, hbase, hbelow⟩ := hc.locate_pathIn hlinks hplace
    exact ⟨base, hbase, FileTree.isBelow_iff.mpr ⟨c.layout, layout_ne_nil c, hbelow⟩⟩
  · exact eq_of_locate_pathIn hc hd hlinks hplace

/-- Empty segments vanish from a path, so that with them two groups can mean the same directory. -/
example : (⟨"org..tool", "cli", "1"⟩ : Coordinates).pathIn ⟨.root, ["m2"]⟩
    = (⟨"org.tool", "cli", "1"⟩ : Coordinates).pathIn ⟨.root, ["m2"]⟩ := by cbv

/-! ## Two artifacts with one name for their files -/

/-- A version of an artifact that has a hyphen in its name. -/
def hyphenName : Coordinates :=
  ⟨"org.tool", "cli-core", "1"⟩

/-- An artifact of which the version has that hyphen. -/
def hyphenVersion : Coordinates :=
  ⟨"org.tool", "cli", "core-1"⟩

/-- Hyphens in names and versions are well-formed. -/
theorem wellFormed_hyphens : hyphenName.WellFormed ∧ hyphenVersion.WellFormed := by
  have hgroup : ∃ segments, segments ≠ [] ∧ ".".intercalate segments = "org.tool" ∧
      ∀ s ∈ segments, Path.IsName s ∧ '.' ∉ s.toList :=
    ⟨["org", "tool"], by decide, by decide, by decide⟩
  exact ⟨⟨hgroup, by decide, by decide⟩, hgroup, by decide, by decide⟩

/-- A machine with both of them in a local repository, and an older file to copy to. -/
def hyphenMachine : World where
  tree := { nodes := [(["m2"], .directory), (["m2", "org"], .directory), (["m2", "org", "tool"], .directory),
    (["m2", "org", "tool", "cli-core"], .directory),
    (["m2", "org", "tool", "cli-core", "1"], .directory),
    (["m2", "org", "tool", "cli-core", "1", "cli-core-1.jar"], .file 1 false [1]),
    (["m2", "org", "tool", "cli"], .directory),
    (["m2", "org", "tool", "cli", "core-1"], .directory),
    (["m2", "org", "tool", "cli", "core-1", "cli-core-1.jar"], .file 2 false [2]),
    (["out.jar"], .file 3 false [])] }
  cwd := []
  environment := []

theorem noLinksFrom_hyphenMachine (p : Path) : hyphenMachine.tree.NoLinksFrom [] p :=
  fun base _ => FileTree.noLinksBelow_of_nodes (by simp [hyphenMachine]) base

/-- The store and both artifacts are where their paths say. -/
theorem locate_hyphenMachine :
    hyphenMachine.tree.locate [] true ⟨.root, ["m2"]⟩ = .ok ["m2"] ∧
    hyphenMachine.tree.locate [] true (hyphenName.pathIn ⟨.root, ["m2"]⟩)
      = .ok ["m2", "org", "tool", "cli-core", "1", "cli-core-1.jar"] ∧
    hyphenMachine.tree.locate [] true (hyphenVersion.pathIn ⟨.root, ["m2"]⟩)
      = .ok ["m2", "org", "tool", "cli", "core-1", "cli-core-1.jar"] := by
  have hname : hyphenName.pathIn ⟨.root, ["m2"]⟩
      = ⟨.root, ["m2", "org", "tool", "cli-core", "1", "cli-core-1.jar"]⟩ := by cbv
  have hversion : hyphenVersion.pathIn ⟨.root, ["m2"]⟩
      = ⟨.root, ["m2", "org", "tool", "cli", "core-1", "cli-core-1.jar"]⟩ := by cbv
  rw [hname, hversion]
  refine ⟨?_, ?_, ?_⟩
  all_goals
    apply FileTree.locate_of_directories
    all_goals
      first
      | decide
      | exact FileTree.ne_link_of_directory (by decide)
      | exact FileTree.ne_link_of_file rfl

/-- The files of both have one name. Still they lie at different paths, and what is copied for the one
is not the file of the other. -/
theorem pathIn_separates_hyphens :
    hyphenName.WellFormed ∧ hyphenVersion.WellFormed ∧
    hyphenName.fileName = hyphenVersion.fileName ∧
    hyphenName.pathIn ⟨.root, ["m2"]⟩ ≠ hyphenVersion.pathIn ⟨.root, ["m2"]⟩ ∧
    ∃ v place other,
      (Repository.copyFrom ⟨.root, ["m2"]⟩ hyphenName ⟨.root, ["out.jar"]⟩).runIn hyphenMachine
        = (.ok ⟨⟩, v) ∧
      CopiedTo ⟨.root, ["out.jar"]⟩ hyphenMachine v place ∧
      hyphenMachine.tree.NoLinksFrom [] ⟨.root, ["m2"]⟩ ∧
      FileTree.isBelow place ["m2"] = true ∧
      hyphenMachine.tree.locate [] true (hyphenVersion.pathIn ⟨.root, ["m2"]⟩) = .ok other ∧
      place ≠ other := by
  obtain ⟨hname, hversion⟩ := wellFormed_hyphens
  obtain ⟨hroot, hartifact, hother⟩ := locate_hyphenMachine
  have hdistinct : hyphenName ≠ hyphenVersion := by decide
  have hlinks := noLinksFrom_hyphenMachine ⟨.root, ["m2"]⟩
  obtain ⟨-, hpaths, hcopies⟩ := pathIn_separates ⟨.root, ["m2"]⟩ hname hversion
  have hout : hyphenMachine.tree.locate [] true ⟨.root, ["out.jar"]⟩ = .ok ["out.jar"] :=
    FileTree.locate_of_directories (by decide) (by decide) (by decide) (by decide)
      (by rintro target ⟨⟩)
  have habove : hyphenMachine.tree.locate [] false (⟨.root, ["out.jar"]⟩ : Path).parent = .ok [] :=
    FileTree.locate_of_directories (by decide) (by decide) (by decide) (by decide)
      (by rintro target ⟨⟩)
  obtain ⟨v, hrun⟩ := Repository.runIn_copyFrom_of_files (w := hyphenMachine) hartifact rfl habove rfl
    hout rfl (by decide) rfl
  obtain ⟨place, -, hcopied, hapart⟩ := hcopies hrun
  obtain ⟨⟨base, hbase, hbelow⟩, hsame⟩ := hapart hlinks
  cases hroot.symm.trans hbase
  refine ⟨hname, hversion, by decide, fun h => hdistinct (hpaths.mp h), v, place, _, hrun, hcopied,
    hlinks, hbelow, hother, ?_⟩
  -- One place for both would make them the same coordinates.
  rintro rfl
  exact hdistinct (hsame hother)

end Coordinates

end Downlevel
