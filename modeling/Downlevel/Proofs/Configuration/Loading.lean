import Downlevel.Configuration
import Downlevel.Proofs.FileTree.Entry
import Downlevel.Proofs.World.Frame
/-!
# Loading a configuration file

What there is at the path of a configuration decides what loading gives: the system refuses to open it,
or its bytes are given to the YAML library, which has data for them or a failure. A mapping is loaded,
and so is anything that counts as empty, which is more than the empty document. An absent file, a text
that is no YAML and other data are faults of the configuration; every other failure is passed on as it
is. Nothing is asked of the library.
-/
namespace Downlevel

/-- Data that are a mapping. -/
def Data.IsMapping (d : Data) : Prop :=
  ∃ entries, d = .map entries

/-- A fault of the configuration. -/
def Failure.IsConfiguration (e : Failure) : Prop :=
  ∃ f, e.fault = .run f ∧ f.kind = .configuration

namespace Configuration

variable {p : Path} {w : World} {d : Data} {e : Failure}

/-! ## What is at a path -/

/-- The data at a path, or why there are none: the system refuses to open it, or the YAML library fails
on its bytes. -/
def dataAt (w : World) (p : Path) : Except Failure Data :=
  match w.tree.read w.cwd p with
  | .error reason => .error (Files.failure reason p)
  | .ok bytes => w.machine.libraries.yaml bytes

/-- The mapping in the data of a file, or the failure that there is none. -/
def entriesOf (p : Path) : Data → Except Failure Fields
  | .map entries => .ok entries
  | d =>
    if d.isTruthy then .error (.ofRun (fault "Configuration file must contain a mapping" p []))
    else .ok []

/-- The mapping that is loaded from a path, or the failure to do so. -/
def entriesAt (w : World) (p : Path) : Except Failure Fields :=
  match dataAt w p with
  | .error e => .error (readFailure p e)
  | .ok d => entriesOf p d

/-- Reading gives the document at the path, and changes nothing. -/
theorem runIn_readData (p : Path) (w : World) : (readData p).runIn w = (match dataAt w p with
    | .error e => .error (readFailure p e)
    | .ok d => .ok d, w) := by
  unfold readData dataAt
  rw [Action.runIn_orFail, Action.runIn_bind, Files.runIn_read]
  cases w.tree.read w.cwd p with
  | error reason => rfl
  | ok bytes =>
    dsimp only [Files.refused]
    rw [Action.runIn_bind_ok (Action.runIn_view _ w), Action.runIn_ofExcept]
    cases w.machine.libraries.yaml bytes <;> rfl

/-- The data at a path decide what is read there, and reading leaves the world as it is. -/
theorem runIn_readEntries (p : Path) (w : World) :
    (readEntries p).runIn w = (entriesAt w p, w) := by
  unfold readEntries entriesAt
  rw [Action.runIn_bind, runIn_readData]
  cases dataAt w p with
  | error e => rfl
  | ok d =>
    cases d with
    | map entries => rfl
    | _ =>
      dsimp only [entriesOf]
      split <;> rfl

/-- Loading keeps the entries at the path, and changes nothing else. -/
theorem runIn_load (c : Configuration) (p : Path) (w : World) :
    (c.load (some p)).runIn w
      = ((entriesAt w p).map fun entries => (entries, { c with entries }), w) := by
  show (readEntries p >>= fun entries => pure (entries, { c with entries })).runIn w = _
  rw [Action.runIn_bind_pure, runIn_readEntries]

/-! ## Documents and failures -/

/-- The file at a path is a document with some data. -/
def Holds (w : World) (p : Path) (d : Data) : Prop :=
  ∃ bytes, w.tree.read w.cwd p = .ok bytes ∧ w.machine.libraries.yaml bytes = .ok d

/-- The document at a path is no mapping and not empty, but counts as nothing. -/
def HoldsNothing (w : World) (p : Path) : Prop :=
  ∃ d, Holds w p d ∧ d.isTruthy = false ∧ d ≠ .null ∧ ¬ d.IsMapping

/-- A fault of reading that is made a fault of the configuration: the file is absent, or no YAML. -/
def IsHandled (f : Fault) : Prop :=
  isAbsence f = true ∨ ∃ reason, f = .malformed reason

/-- The ways in which a failure to load is passed on: the system refuses for another reason than that
nothing is there, it is not asked about the path at all, or the YAML library fails for another reason
than that the text is no YAML. -/
inductive PassedOn (w : World) (p : Path) : Failure → Prop
  | refused {reason : Errno} (h : w.tree.read w.cwd p = .error reason) (hnull : p.hasNull = false)
    (hreason : reason.number ≠ 2) : PassedOn w p ⟨.os reason p.toString none, []⟩
  | null (hnull : p.hasNull = true) : PassedOn w p ⟨.nullByte, []⟩
  | library {bytes : List UInt8} {e : Failure} (h : w.tree.read w.cwd p = .ok bytes)
    (hyaml : w.machine.libraries.yaml bytes = .error e) (hother : ¬ IsHandled e.fault)
    (hrun : ¬ e.IsConfiguration) : PassedOn w p e

/-- Loading accepts what is a mapping or empty, and fails with faults of the configuration alone. -/
def LoadsOrFaults (w : World) (p : Path) (r : Except Failure (Fields × Configuration)) : Prop :=
  ((∃ x, r = .ok x) ↔ ∃ d, Holds w p d ∧ (d = .null ∨ d.IsMapping)) ∧
  ∀ e, r = .error e → e.IsConfiguration

/-! ## Outcomes -/

theorem isConfiguration_because (message : String) (details : Details) (e : Failure) :
    Failure.IsConfiguration (.because (fault message p details) e) :=
  ⟨_, rfl, rfl⟩

theorem isConfiguration_ofRun (message : String) (details : Details) :
    Failure.IsConfiguration (.ofRun (fault message p details)) :=
  ⟨_, rfl, rfl⟩

/-- A path with a null byte is no error of the configuration. -/
theorem not_isConfiguration_nullByte : ¬ Failure.IsConfiguration ⟨.nullByte, []⟩ := by
  rintro ⟨f, hf, -⟩
  cases hf

/-- What the system refuses is no error of the configuration. -/
theorem not_isConfiguration_os (reason : Errno) (path : String) (target : Option String) :
    ¬ Failure.IsConfiguration ⟨.os reason path target, []⟩ := by
  rintro ⟨f, hf, -⟩
  cases hf

/-- A fault that is handled becomes one of the configuration. -/
theorem isConfiguration_readFailure (h : IsHandled e.fault) : (readFailure p e).IsConfiguration := by
  unfold readFailure
  rcases h with habsence | ⟨reason, hreason⟩
  · split
    · exact isConfiguration_because _ _ _
    · rw [if_pos habsence]
      exact isConfiguration_because _ _ _
  · rw [hreason]
    exact isConfiguration_because _ _ _

/-- A fault that is not handled stays as it is. -/
theorem readFailure_of_not_isHandled (h : ¬ IsHandled e.fault) : readFailure p e = e := by
  unfold readFailure
  split
  · rename_i reason hreason
    exact absurd (Or.inr ⟨reason, hreason⟩) h
  · exact if_neg fun habsence => h (Or.inl habsence)

/-- No failure that is passed on is an error of the configuration. -/
theorem PassedOn.not_isConfiguration (h : PassedOn w p e) : ¬ e.IsConfiguration := by
  cases h with
  | refused _ _ _ => exact not_isConfiguration_os _ _ _
  | null _ => exact not_isConfiguration_nullByte
  | library _ _ _ hrun => exact hrun

/-- What is no mapping is refused, unless it counts as nothing. -/
theorem entriesOf_of_not_isMapping (h : ¬ d.IsMapping) : entriesOf p d =
    if d.isTruthy then .error (.ofRun (fault "Configuration file must contain a mapping" p []))
    else .ok [] := by
  cases d with
  | map entries => exact absurd ⟨entries, rfl⟩ h
  | _ => rfl

/-- There is one fault for a document that is no mapping. -/
theorem eq_of_entriesOf_eq_error (h : entriesOf p d = .error e) :
    e = .ofRun (fault "Configuration file must contain a mapping" p []) := by
  by_cases hd : d.IsMapping
  · obtain ⟨entries, rfl⟩ := hd
    cases h
  · rw [entriesOf_of_not_isMapping hd] at h
    split at h <;> cases h
    rfl

/-- A document is read if and only if the path holds it. -/
theorem dataAt_eq_ok_iff : dataAt w p = .ok d ↔ Holds w p d := by
  unfold dataAt Holds
  cases w.tree.read w.cwd p <;> simp

/-- The entries are those of the document at the path. -/
theorem entriesAt_of_holds (h : Holds w p d) : entriesAt w p = entriesOf p d := by
  rw [entriesAt, dataAt_eq_ok_iff.mpr h]

/-- There is one document at a path. -/
theorem Holds.unique {d' : Data} (h : Holds w p d) (h' : Holds w p d') : d = d' := by
  have hdata := dataAt_eq_ok_iff.mpr h
  rw [dataAt_eq_ok_iff.mpr h'] at hdata
  exact (Except.ok.inj hdata).symm

/-- A mapping is read as it stands, and data that count as nothing are the empty mapping. -/
theorem entriesAt_eq_ok_iff {entries : Fields} : entriesAt w p = .ok entries ↔
    Holds w p (.map entries) ∨ entries = [] ∧ ∃ d, Holds w p d ∧ d.isTruthy = false := by
  constructor
  · intro h
    unfold entriesAt at h
    split at h
    · cases h
    · rename_i d hdata
      have hholds := dataAt_eq_ok_iff.mp hdata
      -- A mapping is taken as it is; another document only if it counts as nothing.
      by_cases hd : d.IsMapping
      · obtain ⟨entries', rfl⟩ := hd
        cases h
        exact Or.inl hholds
      · rw [entriesOf_of_not_isMapping hd] at h
        split at h
        · cases h
        · rename_i htruthy
          cases h
          exact Or.inr ⟨rfl, d, hholds, Bool.eq_false_iff.mpr htruthy⟩
  · rintro (hholds | ⟨rfl, d, hholds, htruthy⟩)
    · rw [entriesAt_of_holds hholds]
      rfl
    · rw [entriesAt_of_holds hholds]
      by_cases hd : d.IsMapping
      · obtain ⟨entries, rfl⟩ := hd
        have hempty : entries = [] := by simpa [Data.isTruthy] using htruthy
        rw [hempty]
        rfl
      · rw [entriesOf_of_not_isMapping hd, htruthy]
        rfl

/-- The failures to find data that are no faults of the configuration once they are handled. -/
theorem passedOn_of_dataAt {e : Failure} (h : dataAt w p = .error e) (hother : ¬ IsHandled e.fault)
    (hrun : ¬ e.IsConfiguration) : PassedOn w p e := by
  unfold dataAt at h
  split at h
  · rename_i reason hread
    cases h
    cases hnull : p.hasNull with
    | true =>
      have hfailure : Files.failure reason p = ⟨.nullByte, []⟩ := by
        simp [Files.failure, hnull]
      rw [hfailure]
      exact .null hnull
    | false =>
      have hfailure : Files.failure reason p = ⟨.os reason p.toString none, []⟩ := by
        simp [Files.failure, hnull]
      rw [hfailure] at hother ⊢
      refine .refused hread hnull fun hreason => hother (Or.inl ?_)
      exact decide_eq_true hreason
  · rename_i bytes hread
    exact .library hread h hother hrun

/-- A path with a null character leads nowhere. -/
theorem dataAt_of_hasNull (h : p.hasNull = true) : dataAt w p = .error ⟨.nullByte, []⟩ := by
  have hread : w.tree.read w.cwd p = .error .noEntry := by
    rw [FileTree.read, FileTree.status, FileTree.locate_of_hasNull h]
  rw [dataAt, hread]
  simp [Files.failure, h]

/-- A failure is no fault of the configuration exactly if it is passed on. -/
theorem passedOn_iff :
    (entriesAt w p = .error e ∧ ¬ e.IsConfiguration) ↔ PassedOn w p e := by
  constructor
  · rintro ⟨h, hnot⟩
    unfold entriesAt at h
    split at h
    · rename_i e' hdata
      by_cases hhandled : IsHandled e'.fault
      · cases h
        exact absurd (isConfiguration_readFailure hhandled) hnot
      · rw [readFailure_of_not_isHandled hhandled] at h
        cases h
        exact passedOn_of_dataAt hdata hhandled hnot
    · rw [eq_of_entriesOf_eq_error h] at hnot
      exact absurd (isConfiguration_ofRun _ _) hnot
  · intro h
    refine ⟨?_, h.not_isConfiguration⟩
    have hdata : dataAt w p = .error e ∧ ¬ IsHandled e.fault := by
      cases h with
      | @refused reason hread hnull hreason =>
        refine ⟨?_, ?_⟩
        · rw [dataAt, hread]
          simp [Files.failure, hnull]
        · rintro (habsence | ⟨_, hmalformed⟩)
          · exact hreason (of_decide_eq_true habsence)
          · cases hmalformed
      | null hnull =>
        refine ⟨dataAt_of_hasNull hnull, ?_⟩
        rintro (habsence | ⟨_, hmalformed⟩)
        · exact absurd habsence (by decide)
        · cases hmalformed
      | library hread hyaml hother _ =>
        exact ⟨by rw [dataAt, hread]; exact hyaml, hother⟩
    rw [entriesAt, hdata.1]
    exact congrArg Except.error (readFailure_of_not_isHandled hdata.2)

variable {c : Configuration}

/-- Loading succeeds exactly if there are entries at the path. -/
theorem runIn_load_eq_ok_iff {entries : Fields} :
    (c.load (some p)).runIn w = (.ok (entries, { c with entries }), w) ↔
      entriesAt w p = .ok entries := by
  rw [runIn_load]
  cases entriesAt w p <;> simp [Except.map]

/-- Loading fails exactly if there are no entries at the path, and with that failure. -/
theorem runIn_load_eq_error_iff :
    (c.load (some p)).runIn w = (.error e, w) ↔ entriesAt w p = .error e := by
  rw [runIn_load]
  cases entriesAt w p <;> simp [Except.map]

/-- A document that counts as nothing is loaded, though it is neither a mapping nor empty. -/
theorem HoldsNothing.not_loadsOrFaults (h : HoldsNothing w p) :
    ¬ LoadsOrFaults w p ((c.load (some p)).runIn w).1 := by
  obtain ⟨d, hholds, htruthy, hnull, hmapping⟩ := h
  have hload := (runIn_load_eq_ok_iff (c := c)).mpr
    (entriesAt_eq_ok_iff.mpr (Or.inr ⟨rfl, d, hholds, htruthy⟩))
  rintro ⟨haccepts, -⟩
  obtain ⟨d', hholds', hd'⟩ := haccepts.mp ⟨_, by rw [hload]⟩
  rw [← hholds.unique hholds'] at hd'
  rcases hd' with hd' | hd'
  · exact hnull hd'
  · exact hmapping hd'

/-- A failure that is passed on is outside what the documentation knows. -/
theorem PassedOn.not_loadsOrFaults (h : PassedOn w p e) :
    ¬ LoadsOrFaults w p ((c.load (some p)).runIn w).1 := by
  obtain ⟨hentries, hnot⟩ := passedOn_iff.mpr h
  rintro ⟨-, hfaults⟩
  exact hnot (hfaults e (by rw [runIn_load_eq_error_iff.mpr hentries]))

/-- With nothing passed on and something held, the documentation is right. -/
theorem loadsOrFaults_of_not (hpassed : ∀ e, ¬ PassedOn w p e) (hnothing : ¬ HoldsNothing w p) :
    LoadsOrFaults w p ((c.load (some p)).runIn w).1 := by
  rw [runIn_load]
  constructor
  · constructor
    · rintro ⟨x, hx⟩
      cases hentries : entriesAt w p with
      | error e =>
        rw [hentries] at hx
        cases hx
      | ok entries =>
        rcases entriesAt_eq_ok_iff.mp hentries with hholds | ⟨-, d, hholds, htruthy⟩
        · exact ⟨_, hholds, Or.inr ⟨entries, rfl⟩⟩
        · refine ⟨d, hholds, ?_⟩
          -- What counts as nothing is nothing or a mapping, as there is no other such document.
          by_contra hd
          rw [not_or] at hd
          exact hnothing ⟨d, hholds, htruthy, hd⟩
    · rintro ⟨d, hholds, rfl | ⟨entries, rfl⟩⟩
      · exact ⟨_, by rw [entriesAt_eq_ok_iff.mpr (Or.inr ⟨rfl, _, hholds, rfl⟩)]; rfl⟩
      · exact ⟨_, by rw [entriesAt_eq_ok_iff.mpr (Or.inl hholds)]; rfl⟩
  · intro e he
    by_contra hnot
    exact hpassed e (passedOn_iff.mp ⟨Action.error_of_map he, hnot⟩)

/-- The path of a configuration file. -/
def rootFile : Path := ⟨.root, ["c.yaml"]⟩

/-- A machine with a configuration file. -/
def machineWith (text : String) : World where
  tree := { nodes := [(["c.yaml"], .file 1 false (Text.utf8 text))] }
  cwd := []
  environment := []

theorem read_machineWith (text : String) :
    (machineWith text).tree.read (machineWith text).cwd rootFile = .ok (Text.utf8 text) := by
  have hplace : (machineWith text).tree.locate (machineWith text).cwd false rootFile
      = .ok ["c.yaml"] :=
    FileTree.locate_in_root (by decide) rfl (by decide) nofun
  exact FileTree.read_of_locate hplace rfl

/-- Whether an empty list was read. Data are not compared by a decision procedure, as they may hold
floats. -/
def isEmptyList : Except Failure Data → Bool
  | .ok (.list []) => true
  | _ => false

theorem eq_of_isEmptyList {r : Except Failure Data} (h : isEmptyList r = true) :
    r = .ok (.list []) := by
  unfold isEmptyList at h
  split at h
  · rfl
  · cases h

theorem holds_emptyList : Holds (machineWith "[]\n") rootFile (.list []) :=
  ⟨_, read_machineWith "[]\n", eq_of_isEmptyList (by decide +kernel)⟩

end Configuration

end Downlevel
