import Downlevel.Proofs.Artifact.Acquisition
/-!
# Failed retrievals

A repository is to fail with nothing but a failed retrieval. A directory of artifacts does unless the look
at the artifact is refused, or the path of the copy has a null character. So does a build tool that can be
run, up to its last step: where the tool leaves the artifact in another file than the destination, a
refusal to move that file is passed on as it is. An acquisition takes a failure that says that nothing is
published for an outcome, and passes on every other one. With a build tool that comes to pass just if the
tool fails and prints the words that are looked for.
-/
namespace Downlevel

/-- A failed retrieval, of an artifact that is not published or of any other. -/
def Failure.OfRetrieval (e : Failure) : Prop :=
  ∃ f, e.fault = .run f ∧ (f.kind = .retrieval ∨ f.kind = .notPublished)

/-- A failed retrieval with one of these messages is a failed retrieval. -/
theorem Failure.IsRetrieval.ofRetrieval {messages : List String} {e : Failure}
    (h : e.IsRetrieval messages) : e.OfRetrieval := by
  obtain ⟨f, hfault, hkind, -⟩ := h
  exact ⟨f, hfault, Or.inl hkind⟩

/-- However a failure is told apart by its message, it is a failed retrieval. -/
theorem Artifact.ofRetrieval_classify (message : String) (c : Coordinates) :
    (Failure.ofRun (classify message c)).OfRetrieval := by
  refine ⟨_, rfl, ?_⟩
  show (if saysNotPackaged message then _ else _) = _ ∨ (if saysNotPackaged message then _ else _) = _
  cases saysNotPackaged message with
  | true => exact Or.inr rfl
  | false => exact Or.inl rfl

/-- A refusal of the system is no failed retrieval. -/
theorem Files.not_ofRetrieval_failure (errno : Errno) (p : Path) (target : Option Path := none) :
    ¬ (failure errno p target).OfRetrieval := by
  rintro ⟨f, hfault, -⟩
  unfold failure at hfault
  split at hfault <;> cases hfault

/-- A move that is refused is a failure about both paths. -/
theorem Files.runIn_rename (p q : Path) (w : World) :
    (rename p q).runIn w = match w.tree.rename w.cwd p q with
      | .ok tree => (.ok ⟨⟩, { w with tree })
      | .error e => (.error (failure e p (some q)), w) := by
  unfold rename
  rw [Action.runIn_bind_ok (Action.runIn_get w)]
  cases w.tree.rename w.cwd p q <;> rfl

/-! ## Copies with a null character in their path -/

namespace Files

variable {source target : Path} {w : World} {bytes : List UInt8}

/-- A file that can be read is not written where the path has a null character. -/
theorem runIn_copy_of_hasNull (hread : w.tree.read w.cwd source = .ok bytes)
    (hnull : target.hasNull = true) : (copy source target).runIn w = (.error .ofNull, w) := by
  have hlocate (f : Bool) : w.tree.locate w.cwd f target = .error .noEntry :=
    FileTree.locate_of_hasNull hnull f
  have hwrite (bytes : List UInt8) :
      w.tree.write w.cwd w.freshId target bytes = .error .noEntry := by
    rw [FileTree.write, FileTree.openForWriting, hlocate]
  have hcopied := runIn_read_write source target w
  rw [hread] at hcopied
  dsimp only at hcopied
  rw [hwrite] at hcopied
  dsimp only at hcopied
  rw [failure_of_hasNull hnull] at hcopied
  -- The check for the same file finds none, so that the copy is to read and to write.
  refine Eq.trans ?_ hcopied
  unfold copy
  rw [Action.runIn_bind_ok (Action.runIn_get w)]
  dsimp only
  rw [hlocate]
  dsimp only
  split
  · rename_i hsome
    cases hsome
  · rfl

/-- The copying of a file into a directory fails for a null character just if the path of the copy has
one, and the system does not refuse to make the directories before. -/
theorem runIn_copyInto_eq_ofNull_iff (hsource : source.hasNull = false)
    (hread : w.tree.read w.cwd source = .ok bytes) :
    ((copyInto source target).runIn w).1 = .error .ofNull ↔ target.hasNull = true ∧
      ∀ e, ((makeDirectoriesOf target.parent).runIn w).1 = .error e → ¬ e.IsOs := by
  have hos : ¬ Failure.IsOs .ofNull := nofun
  have hcopied : ((copyInto source target).runIn w).1 = .error .ofNull → target.hasNull = true :=
    fun h => ((throws_copyInto hsource _ _ _ (Prod.ext h rfl)).resolve_left hos).1
  unfold copyInto at hcopied ⊢
  rw [Action.runIn_bind] at hcopied ⊢
  rcases hmake : (makeDirectoriesOf target.parent).runIn w with ⟨e | ⟨⟩, u⟩
  · -- The directories could not be made, or they are there and the copy itself is refused.
    rw [hmake] at hcopied
    constructor
    · intro h
      refine ⟨hcopied h, fun e' he' => ?_⟩
      cases h.symm.trans he'
      exact hos
    · rintro ⟨-, hnot⟩
      rw [((throws_makeDirectories _ _ _ _ _ hmake).resolve_left (hnot e rfl)).2]
  · rw [hmake] at hcopied
    refine ⟨fun h => ⟨hcopied h, nofun⟩, fun h => ?_⟩
    have hmade := (within_makeDirectoriesOf_adds target.parent).of_runIn hmake
    have hread' : u.tree.read u.cwd source = .ok bytes := by
      rw [hmade.onlyTree.cwd]
      exact hmade.tree.read hread
    exact congrArg Prod.fst (runIn_copy_of_hasNull hread' h.1)

end Files

/-! ## What repositories fail with -/

namespace BuildToolCopier

variable {m : BuildToolCopier} {c : Coordinates} {destination : Path} {w v : World} {e : Failure}

/-- How the copying by a build tool fails otherwise than in a failed retrieval: the tool has no end and
is not refused by the system either, or it ended well and what it left cannot be moved to the
destination. -/
inductive FailsOtherwise (m : BuildToolCopier) (c : Coordinates) (destination : Path) (w : World) :
    Failure → Prop
  | tool {e : Failure} {v : World} (h : m.ran c destination w = (.error e, v))
      (hos : e.fault.isOs = false) (hnot : ¬ e.OfRetrieval) : FailsOtherwise m c destination w e
  | move {outcome : Process.Outcome} {v : World} {errno : Errno}
      (h : m.ran c destination w = (.ok outcome, v)) (hcode : outcome.returnCode = 0)
      (hfile : copied c destination ≠ destination)
      (hrefused : v.tree.rename v.cwd (copied c destination) destination = .error errno) :
    FailsOtherwise m c destination w (Files.failure errno (copied c destination) (some destination))

/-- A copying fails with something else than a failed retrieval just in these ways. -/
theorem copy_fails_otherwise_iff :
    ((∃ v, (m.copy c destination).runIn w = (.error e, v)) ∧ ¬ e.OfRetrieval) ↔
      m.FailsOtherwise c destination w e := by
  constructor
  · rintro ⟨⟨v, hrun⟩, hnot⟩
    rw [runIn_copy] at hrun
    rcases hran : m.ran c destination w with ⟨e' | outcome, u⟩
    · -- A tool that the system does not start is a failed retrieval.
      rw [hran] at hrun
      dsimp only at hrun
      split at hrun
      · cases hrun
        exact absurd ⟨_, rfl, Or.inl rfl⟩ hnot
      · rename_i hos
        cases hrun
        exact .tool hran (Bool.eq_false_iff.mpr hos) hnot
    · rw [hran] at hrun
      dsimp only at hrun
      rw [runIn_settle] at hrun
      split at hrun
      · cases hrun
        exact absurd (Artifact.ofRetrieval_classify _ _) hnot
      · rename_i hcode
        split at hrun
        · rename_i hfile
          rw [Files.runIn_rename] at hrun
          split at hrun
          · cases hrun
          · rename_i errno hrefused
            cases hrun
            exact .move hran (not_not.mp hcode) hfile hrefused
        · cases hrun
  · intro h
    -- The other way, the failure is that of the tool or of the renaming.
    cases h with
    | @tool _ u hran hos hnot =>
      refine ⟨⟨u, ?_⟩, hnot⟩
      rw [runIn_copy, hran]
      dsimp only
      rw [hos, if_neg Bool.false_ne_true]
    | @move _ u _ hran hcode hfile hrefused =>
      refine ⟨⟨u, ?_⟩, Files.not_ofRetrieval_failure _ _ _⟩
      rw [runIn_copy, hran]
      dsimp only
      rw [runIn_settle, if_neg (not_not_intro hcode), if_pos hfile, Files.runIn_rename, hrefused]

end BuildToolCopier

namespace Repository

variable {root : Path} {c : Coordinates} {destination : Path} {w : World} {e : Failure}

/-- How the copying of an artifact out of a directory fails otherwise than in a failed retrieval: the look
at the artifact is refused, or the artifact is there, and the path of the copy has a null character that
is not preceded by a refusal to make the directories above it. -/
inductive FailsOtherwise (root : Path) (c : Coordinates) (destination : Path) (w : World) :
    Failure → Prop
  | look {errno : Errno} (h : w.tree.isFile w.cwd (c.pathIn root) = .error errno) :
    FailsOtherwise root c destination w (Files.failure errno (c.pathIn root))
  | null (hfile : w.tree.isFile w.cwd (c.pathIn root) = .ok true)
      (hnull : destination.hasNull = true)
      (hmade : ∀ e, ((Files.makeDirectoriesOf destination.parent).runIn w).1 = .error e → ¬ e.IsOs) :
    FailsOtherwise root c destination w .ofNull

/-- A refused look at the artifact ends the copying at once. -/
theorem runIn_copyFrom_of_refused {errno : Errno}
    (h : w.tree.isFile w.cwd (c.pathIn root) = .error errno) :
    (copyFrom root c destination).runIn w = (.error (Files.failure errno (c.pathIn root)), w) := by
  unfold copyFrom
  rw [Action.runIn_bind, Files.runIn_isFile, h]
  rfl

/-- The copying of an artifact that is there fails for a null character just as the copying of the file
does. -/
theorem runIn_copyFrom_eq_ofNull_iff (hfile : w.tree.isFile w.cwd (c.pathIn root) = .ok true) :
    ((copyFrom root c destination).runIn w).1 = .error .ofNull ↔
      ((Files.copyInto (c.pathIn root) destination).runIn w).1 = .error .ofNull := by
  have hlook : (Files.isFile (c.pathIn root)).runIn w = (.ok true, w) := by
    rw [Files.runIn_isFile, hfile]
    rfl
  unfold copyFrom
  rw [Action.runIn_bind_ok hlook, if_pos rfl]
  show (((Files.copyInto (c.pathIn root) destination).orFail Fault.isOs _).runIn w).1 = _ ↔ _
  rw [Action.runIn_orFail]
  rcases (Files.copyInto (c.pathIn root) destination).runIn w with ⟨e | ⟨⟩, v⟩
  · dsimp only
    split
    · rename_i hos
      refine iff_of_false nofun fun h => ?_
      cases h
      cases hos
    · rfl
  · rfl

/-- A copying out of a directory fails with something else than a failed retrieval just in these ways. -/
theorem copyFrom_fails_otherwise_iff :
    ((∃ v, (copyFrom root c destination).runIn w = (.error e, v)) ∧ ¬ e.OfRetrieval) ↔
      FailsOtherwise root c destination w e := by
  have hnull_iff (hfile : w.tree.isFile w.cwd (c.pathIn root) = .ok true) :
      ((copyFrom root c destination).runIn w).1 = .error .ofNull ↔ destination.hasNull = true ∧
        ∀ e, ((Files.makeDirectoriesOf destination.parent).runIn w).1 = .error e → ¬ e.IsOs := by
    obtain ⟨bytes, hread⟩ := FileTree.isFile_iff.mp hfile
    rw [runIn_copyFrom_eq_ofNull_iff hfile,
      Files.runIn_copyInto_eq_ofNull_iff (FileTree.hasNull_of_isFile hfile) hread]
  constructor
  · rintro ⟨⟨v, hrun⟩, hnot⟩
    have hretrieves := retrieves_copyFrom root c destination w
    rw [hrun] at hretrieves
    cases hretrieves with
    | refused h => exact .look h
    | missing h hkind => exact absurd hkind.ofRetrieval hnot
    | hindered hfile hkind hadds =>
      -- What is hindered otherwise than by the system is a path with a null byte.
      obtain ⟨rfl, -⟩ := hkind.resolve_right fun h => hnot h.ofRetrieval
      obtain ⟨hnull, hmade⟩ := (hnull_iff hfile).mp (congrArg Prod.fst hrun)
      exact .null hfile hnull hmade
    | brokenOff hread hbreak hkind hwritten => exact absurd hkind.ofRetrieval hnot
  · intro h
    cases h with
    | look h => exact ⟨⟨w, runIn_copyFrom_of_refused h⟩, Files.not_ofRetrieval_failure _ _⟩
    | null hfile hnull hmade =>
      refine ⟨⟨_, Prod.ext ((hnull_iff hfile).mpr ⟨hnull, hmade⟩) rfl⟩, ?_⟩
      rintro ⟨f, hfault, -⟩
      cases hfault

/-- A machine on which a build tool ends well and leaves nothing. -/
def idleTool : World where
  tree := .empty
  cwd := []
  environment := []
  scripts := [{}]
  log := ⟨.critical, []⟩

/-- An artifact that is not named as its destination is. -/
def strangeArtifact : Coordinates :=
  ⟨"g", "tool", "1"⟩

/-- What the tool did not leave cannot be moved. -/
theorem failsOtherwise_idleTool :
    BuildToolCopier.FailsOtherwise {} strangeArtifact ⟨.root, ["other.jar"]⟩ idleTool
      (Files.failure .noEntry ⟨.root, ["tool.jar"]⟩ (some ⟨.root, ["other.jar"]⟩)) := by
  have hcopied : BuildToolCopier.copied strangeArtifact ⟨.root, ["other.jar"]⟩
      = ⟨.root, ["tool.jar"]⟩ := by cbv
  have hleft : FileTree.empty.locate [] false ⟨.root, ["tool.jar"]⟩ = .ok ["tool.jar"] :=
    FileTree.locate_in_root (by decide) rfl (by decide) (by rintro target ⟨⟩)
  have hwanted : FileTree.empty.locate [] false ⟨.root, ["other.jar"]⟩ = .ok ["other.jar"] :=
    FileTree.locate_in_root (by decide) rfl (by decide) (by rintro target ⟨⟩)
  have hrefused : FileTree.empty.rename [] ⟨.root, ["tool.jar"]⟩ ⟨.root, ["other.jar"]⟩
      = .error .noEntry := by
    rw [FileTree.rename, hleft, hwanted]
    rfl
  rw [← hcopied] at hrefused ⊢
  have hran : ∃ v, BuildToolCopier.ran {} strangeArtifact ⟨.root, ["other.jar"]⟩ idleTool
      = (.ok ⟨0, "", ""⟩, v) ∧ v.tree = FileTree.empty ∧ v.cwd = [] := ⟨_, rfl, rfl, rfl⟩
  obtain ⟨v, hran, htree, hcwd⟩ := hran
  have hrefused : v.tree.rename v.cwd (BuildToolCopier.copied strangeArtifact ⟨.root, ["other.jar"]⟩)
      ⟨.root, ["other.jar"]⟩ = .error .noEntry := by
    rw [htree, hcwd]
    exact hrefused
  -- The tool ends well and leaves nothing that could be renamed.
  exact .move hran rfl (by rw [hcopied]; decide) hrefused

end Repository

/-! ## What an acquisition makes of them -/

/-- A fault says that an artifact is not published: by its kind or, as a failed retrieval, by its
message. -/
def Fault.SaysNotPublished (f : Fault) : Prop :=
  ∃ r, f = .run r ∧
    (r.kind = .notPublished ∨ r.kind = .retrieval ∧ Artifact.saysNotPackaged r.message = true)

/-- Of the faults of a run, two kinds can say that a version is not published. -/
theorem Fault.saysNotPublished_run (r : RunFault) : (Fault.run r).SaysNotPublished ↔
    r.kind = .notPublished ∨ r.kind = .retrieval ∧ Artifact.saysNotPackaged r.message = true := by
  constructor
  · rintro ⟨r', hr, h⟩
    cases hr
    exact h
  · exact fun h => ⟨r, rfl, h⟩

/-- A message without the mark is a failed retrieval like any other. -/
theorem Artifact.kind_classify {message : String} (h : ¬ saysNotPackaged message = true)
    (c : Coordinates) : (classify message c).kind = .retrieval :=
  if_neg h

/-- A failure that is told apart by its message says it just if the message does. -/
theorem Artifact.saysNotPublished_classify (message : String) (c : Coordinates) :
    (Fault.run (classify message c)).SaysNotPublished ↔ saysNotPackaged message = true := by
  rw [Fault.saysNotPublished_run]
  show (if saysNotPackaged message then RunFaultKind.notPublished else .retrieval) = _ ∨
    (if saysNotPackaged message then RunFaultKind.notPublished else .retrieval) = _ ∧
      saysNotPackaged message = true ↔ _
  cases saysNotPackaged message with
  | true => exact iff_of_true (Or.inl rfl) rfl
  | false => exact iff_of_false (by rintro (h | ⟨-, h⟩) <;> cases h) Bool.false_ne_true

/-- A tool that does not start says so only if its name or the reason does. -/
theorem BuildToolCopier.saysNotPublished_notStarted (m : BuildToolCopier) (c : Coordinates)
    (e : Failure) : (m.notStarted c e).fault.SaysNotPublished ↔
      Artifact.saysNotPackaged (Artifact.notStartedText m.executable e.fault.text) = true := by
  refine (Fault.saysNotPublished_run _).trans ⟨?_, fun h => Or.inr ⟨rfl, h⟩⟩
  rintro (h | h)
  · cases h
  · exact h.2

namespace Acquirer

variable {a : Acquirer} {version : String} {w v : World} {e : Failure}

/-- What says nothing of publication is passed on. -/
theorem notPublishedMessage?_eq_none_iff {f : Fault} :
    notPublishedMessage? f = none ↔ ¬ f.SaysNotPublished := by
  cases f with
  | run r =>
    rw [Fault.saysNotPublished_run, notPublishedMessage?]
    cases hkind : r.kind with
    | retrieval => cases Artifact.saysNotPackaged r.message <;> simp
    | _ => simp
  | _ =>
    refine iff_of_true rfl ?_
    rintro ⟨r, hr, -⟩
    cases hr

/-- An acquisition fails just as the copying does, if that does not say that nothing is published. -/
theorem ensurePresent_eq_error_iff :
    (a.ensurePresent version).runIn w = (.error e, v) ↔
      (a.repository.copy (.retrolambda version) a.jarPath).runIn (asked version w) = (.error e, v) ∧
        ¬ e.fault.SaysNotPublished := by
  rw [runIn_ensurePresent]
  rcases (a.repository.copy (.retrolambda version) a.jarPath).runIn (asked version w) with
    ⟨e' | ⟨⟩, u⟩
  · dsimp only
    -- A failure that says that nothing is published is turned into a result.
    cases hsays : notPublishedMessage? e'.fault with
    | some message =>
      refine iff_of_false nofun ?_
      rintro ⟨hrun, hnot⟩
      cases hrun
      rw [notPublishedMessage?_eq_none_iff.mpr hnot] at hsays
      cases hsays
    | none =>
      constructor
      · intro hrun
        cases hrun
        exact ⟨rfl, notPublishedMessage?_eq_none_iff.mp hsays⟩
      · rintro ⟨hrun, -⟩
        cases hrun
        rfl
  · exact iff_of_false nofun fun h => nomatch h.1

/-- Nothing is published just if the copying fails and says so. -/
theorem ensurePresent_eq_notPublished_iff :
    ((a.ensurePresent version).runIn w).1 = .ok .notPublished ↔ ∃ e v,
      (a.repository.copy (.retrolambda version) a.jarPath).runIn (asked version w) = (.error e, v) ∧
        e.fault.SaysNotPublished := by
  rw [runIn_ensurePresent]
  rcases (a.repository.copy (.retrolambda version) a.jarPath).runIn (asked version w) with
    ⟨e | ⟨⟩, u⟩
  · dsimp only
    cases hsays : notPublishedMessage? e.fault with
    | some message =>
      refine iff_of_true rfl ⟨e, u, rfl, by_contra fun hnot => ?_⟩
      rw [notPublishedMessage?_eq_none_iff.mpr hnot] at hsays
      cases hsays
    | none =>
      refine iff_of_false nofun ?_
      rintro ⟨e', v, hrun, hsaid⟩
      cases hrun
      exact notPublishedMessage?_eq_none_iff.mp hsays hsaid
  · refine iff_of_false nofun ?_
    rintro ⟨e, v, hrun, -⟩
    cases hrun

/-! ## Acquisition by a build tool -/

variable {m : BuildToolCopier} {build : Path} {o : Process.Outcome}

/-- What keeps a jar up to date by means of a build tool. -/
def fromTool (m : BuildToolCopier) (build : Path) : Acquirer :=
  ⟨.buildTool m, build⟩

/-- How the build tool ends that is started for a version, and the world that it leaves. -/
def toolEnd (m : BuildToolCopier) (build : Path) (version : String) (w : World) :
    Except Failure Process.Outcome × World :=
  m.ran (.retrolambda version) (fromTool m build).jarPath (asked version w)

/-- How an acquisition by a build tool ends. -/
def toolOutcome (m : BuildToolCopier) (build : Path) (version : String) (w : World) :
    Except Failure Acquired :=
  (((fromTool m build).ensurePresent version).runIn w).1

/-- A build tool printed that the artifact is not made yet, wherever the one stream ends and the other
begins. -/
def SaidNotPackaged (o : Process.Outcome) : Prop :=
  Artifact.notPackagedMark.toList <:+: o.stdout.toList ++ o.stderr.toList

/-- A message holds what a build tool printed but for the blanks around it, and the return code if the
tool printed nothing else. -/
def Reports (o : Process.Outcome) (message : String) : Prop :=
  Text.strip (o.stdout.toList ++ o.stderr.toList) <:+: message.toList ∧
    (Text.strip (o.stdout.toList ++ o.stderr.toList) = [] →
      ("exit code " ++ toString o.returnCode).toList <:+: message.toList)

/-- The text about a failed tool reports what the tool printed. -/
theorem reports_toolFailedText (c : Coordinates) (o : Process.Outcome) :
    Reports o (Artifact.toolFailedText c o) := by
  have hcomplaint : (BuildToolCopier.complaint o).toList
      <:+: (Artifact.toolFailedText c o).toList := by
    have htext : (Artifact.toolFailedText c o).toList
        = ("Failed to copy " ++ c.toString ++ ": ").toList
          ++ (BuildToolCopier.complaint o).toList := String.toList_append
    rw [htext]
    exact (List.suffix_append _ _).isInfix
  unfold Reports
  rw [← String.toList_append]
  by_cases hblank : Text.strip (o.stdout ++ o.stderr).toList = []
  · rw [hblank]
    refine ⟨List.nil_infix, fun _ => ?_⟩
    rwa [BuildToolCopier.complaint, Text.trimmed, hblank, if_pos (by decide)] at hcomplaint
  · refine ⟨?_, fun h => absurd h hblank⟩
    rwa [BuildToolCopier.complaint, Text.trimmed, if_neg (by simpa using hblank),
      String.toList_ofList] at hcomplaint

/-- A tool that ended decides by its exit code. -/
theorem copy_jar_of_ended (h : (toolEnd m build version w).1 = .ok o) : ∃ v,
    ((fromTool m build).repository.copy (.retrolambda version) (fromTool m build).jarPath).runIn
      (asked version w) = if o.returnCode = 0 then (.ok ⟨⟩, v)
        else (.error (.ofRun (Artifact.classify
          (Artifact.toolFailedText (.retrolambda version) o) (.retrolambda version))), v) := by
  have hcopied := m.runIn_copy_jar (fromTool m build) version (asked version w)
  unfold toolEnd at h
  rcases hran : m.ran (.retrolambda version) (fromTool m build).jarPath (asked version w) with ⟨r, v⟩
  rw [hran] at h hcopied
  cases h
  exact ⟨v, hcopied⟩

/-- A tool that the system does not start is a failed retrieval. -/
theorem copy_jar_of_refused (h : (toolEnd m build version w).1 = .error e) (hos : e.IsOs) : ∃ v,
    ((fromTool m build).repository.copy (.retrolambda version) (fromTool m build).jarPath).runIn
      (asked version w) = (.error (m.notStarted (.retrolambda version) e), v) := by
  have hcopied := m.runIn_copy_jar (fromTool m build) version (asked version w)
  unfold toolEnd at h
  rcases hran : m.ran (.retrolambda version) (fromTool m build).jarPath (asked version w) with ⟨r, v⟩
  rw [hran] at h hcopied
  cases h
  dsimp only at hcopied
  rw [if_pos (show e.fault.isOs = true from hos)] at hcopied
  exact ⟨v, hcopied⟩

/-- A tool that ends with zero has brought the jar, whatever it printed. -/
theorem toolOutcome_of_zero (h : (toolEnd m build version w).1 = .ok o) (hcode : o.returnCode = 0) :
    toolOutcome m build version w = .ok .present := by
  obtain ⟨v, hcopied⟩ := copy_jar_of_ended h
  rw [if_pos hcode] at hcopied
  exact congrArg Prod.fst (ensurePresent_eq_present.mpr hcopied)

/-- A tool that ends tells that nothing is published just if it failed and said so. -/
theorem toolOutcome_eq_notPublished_iff (hversion : Artifact.saysNotPackaged version = false)
    (h : (toolEnd m build version w).1 = .ok o) :
    toolOutcome m build version w = .ok .notPublished ↔ o.returnCode ≠ 0 ∧ SaidNotPackaged o := by
  by_cases hcode : o.returnCode = 0
  · rw [toolOutcome_of_zero h hcode]
    exact iff_of_false nofun fun hsaid => hsaid.1 hcode
  · obtain ⟨v, hcopied⟩ := copy_jar_of_ended h
    rw [if_neg hcode] at hcopied
    rw [toolOutcome, ensurePresent_eq_notPublished_iff, hcopied, SaidNotPackaged,
      ← Artifact.saysNotPackaged_toolFailedText hversion, and_iff_right hcode,
      ← Artifact.saysNotPublished_classify _ (.retrolambda version)]
    constructor
    · rintro ⟨e, u, hrun, hsaid⟩
      cases hrun
      exact hsaid
    · exact fun hsaid => ⟨_, v, rfl, hsaid⟩

/-- A tool that failed and did not say so fails the acquisition, in a message that reports it. -/
theorem toolOutcome_of_code (hversion : Artifact.saysNotPackaged version = false)
    (h : (toolEnd m build version w).1 = .ok o) (hcode : o.returnCode ≠ 0)
    (hsaid : ¬ SaidNotPackaged o) :
    ∃ f, toolOutcome m build version w = .error (.ofRun f) ∧ f.kind = .retrieval ∧
      Reports o f.message := by
  obtain ⟨v, hcopied⟩ := copy_jar_of_ended h
  rw [if_neg hcode] at hcopied
  have hclear : ¬ Artifact.saysNotPackaged
      (Artifact.toolFailedText (.retrolambda version) o) = true :=
    fun h => hsaid ((Artifact.saysNotPackaged_toolFailedText hversion o).mp h)
  have hfailed := ensurePresent_eq_error_iff.mpr
    ⟨hcopied, fun h => hclear ((Artifact.saysNotPublished_classify _ _).mp h)⟩
  refine ⟨_, congrArg Prod.fst hfailed, Artifact.kind_classify hclear _, ?_⟩
  exact reports_toolFailedText _ o

/-- A tool that the system refuses to start fails the acquisition, in a message with the reason. -/
theorem toolOutcome_of_refused (hexecutable : Artifact.saysNotPackaged m.executable = false)
    (h : (toolEnd m build version w).1 = .error e) (hos : e.IsOs)
    (hreason : Artifact.saysNotPackaged e.fault.text = false) :
    ∃ f, toolOutcome m build version w = .error (.because f e) ∧ f.kind = .retrieval ∧
      f.message = Artifact.notStartedText m.executable e.fault.text := by
  obtain ⟨v, hcopied⟩ := copy_jar_of_refused h hos
  have hclear := Artifact.saysNotPackaged_notStartedText hexecutable hreason
  have hfailed := ensurePresent_eq_error_iff.mpr ⟨hcopied, fun h =>
    Bool.false_ne_true (hclear.symm.trans ((m.saysNotPublished_notStarted _ e).mp h))⟩
  exact ⟨_, congrArg Prod.fst hfailed, rfl, rfl⟩

/-- How an acquisition by a build tool answers to the end of the tool. A tool that ends with zero has
brought the jar. One that failed tells that nothing is published just if it printed so, and is a failed
retrieval otherwise, as is one that the system refused to start in other words. -/
structure AnswersTo (m : BuildToolCopier) (build : Path) (version : String) (w : World) : Prop where
  notPublished_iff : ∀ o, (toolEnd m build version w).1 = .ok o →
    (toolOutcome m build version w = .ok .notPublished ↔ o.returnCode ≠ 0 ∧ SaidNotPackaged o)
  present : ∀ o, (toolEnd m build version w).1 = .ok o → o.returnCode = 0 →
    toolOutcome m build version w = .ok .present
  failed : ∀ o, (toolEnd m build version w).1 = .ok o → o.returnCode ≠ 0 → ¬ SaidNotPackaged o →
    ∃ f, toolOutcome m build version w = .error (.ofRun f) ∧ f.kind = .retrieval ∧
      Reports o f.message
  refused : ∀ e, (toolEnd m build version w).1 = .error e → e.IsOs →
    Artifact.saysNotPackaged e.fault.text = false →
    ∃ f, toolOutcome m build version w = .error (.because f e) ∧ f.kind = .retrieval ∧
      f.message = Artifact.notStartedText m.executable e.fault.text

/-- **Only what is not packaged yet is no failure.** An acquisition by a build tool answers to the end
of the tool, if neither the version nor the name of the tool has the words that are looked for. Over
any repository, an acquisition fails just if the copying fails and does not say that nothing is
published; the failure and the world are those of the copying. -/
theorem answersTo_tool :
    (∀ (m : BuildToolCopier) (build : Path) (version : String) (w : World),
      Artifact.saysNotPackaged version = false → Artifact.saysNotPackaged m.executable = false →
      AnswersTo m build version w) ∧
    ∀ (a : Acquirer) (version : String) (w v : World) (e : Failure),
      (a.ensurePresent version).runIn w = (.error e, v) ↔
        (a.repository.copy (.retrolambda version) a.jarPath).runIn (asked version w)
          = (.error e, v) ∧ ¬ e.fault.SaysNotPublished := by
  refine ⟨fun m build version w hversion hexecutable => ?_,
    fun _ _ _ _ _ => ensurePresent_eq_error_iff⟩
  exact {
    notPublished_iff := fun _ h => toolOutcome_eq_notPublished_iff hversion h
    present := fun _ h hcode => toolOutcome_of_zero h hcode
    failed := fun _ h hcode hsaid => toolOutcome_of_code hversion h hcode hsaid
    refused := fun _ h hos hreason => toolOutcome_of_refused hexecutable h hos hreason }

/-- A build tool that fails, with the words that are looked for in both of its streams. -/
def brokenWords : World where
  tree := .empty
  cwd := []
  environment := []
  scripts := [{ returnCode := 1, stdout := "Artifact has not been ", stderr := "packaged yet." }]
  log := ⟨.critical, []⟩

/-- Words that begin in one stream and end in the other are found. -/
theorem answersTo_tool_broken :
    Artifact.saysNotPackaged "2.5.8" = false ∧ Artifact.saysNotPackaged "mvn" = false ∧
      toolOutcome {} ⟨.root, ["build"]⟩ "2.5.8" brokenWords = .ok .notPublished := by
  have hversion : Artifact.saysNotPackaged "2.5.8" = false := by decide +kernel
  have hexecutable : Artifact.saysNotPackaged "mvn" = false := by decide +kernel
  have hanswers := answersTo_tool.1 {} ⟨.root, ["build"]⟩ "2.5.8" brokenWords hversion hexecutable
  have hended : (toolEnd {} ⟨.root, ["build"]⟩ "2.5.8" brokenWords).1
      = .ok ⟨1, "Artifact has not been ", "packaged yet."⟩ := rfl
  refine ⟨hversion, hexecutable, (hanswers.notPublished_iff _ hended).mpr ⟨by decide, ?_⟩⟩
  unfold SaidNotPackaged
  decide +kernel

end Acquirer

end Downlevel
