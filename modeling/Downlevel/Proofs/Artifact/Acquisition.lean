import Downlevel.Proofs.Artifact.Message
import Downlevel.Proofs.World.Copying
import Downlevel.Proofs.World.LogFiles
import Downlevel.Proofs.World.Throwing
/-!
# Acquisition from a local repository

The jar of a version is copied out of a directory of artifacts. That ends well and the jar has the
bytes of the artifact, or it fails and every file is as it was, or the system breaks the writing of the
jar off and the jar has a beginning of the artifact. So after any number of acquisitions the jar is that
of the last one that ended well, if none that came later was broken off.
-/
namespace Downlevel

/-! ## Copying out of a directory of artifacts -/

/-- A file with a path of the system is copied into a directory with refusals of the system alone,
unless the path of the copy has a null character. -/
theorem Files.throws_copyInto {source target : Path} (hsource : source.hasNull = false) :
    (copyInto source target).Throws (Failure.IsRefusalOf target) := by
  refine ((throws_makeDirectories _ _).mono fun e h => h.of_parent).bind fun _ => ?_
  exact (throws_copy _ _).mono fun e h => h.elim (fun h => Or.inl (h.isOs hsource)) id

/-- A failed retrieval with one of some messages. -/
def Failure.IsRetrieval (messages : List String) (e : Failure) : Prop :=
  ∃ f, e.fault = .run f ∧ f.kind = .retrieval ∧ f.message ∈ messages

namespace Repository

variable {root : Path} {c : Coordinates} {w : World}

/-- What the copying of an artifact says if it fails. -/
def retrievalTexts (root : Path) (c : Coordinates) (destination : Path) : List String :=
  [Artifact.notFoundText root c, Artifact.notCopiedText (c.pathIn root) destination]

/-- What comes of the copying of an artifact out of a directory, in which world. The look at the artifact
is refused, or finds none; at most directories are made; the system breaks the writing off after a
beginning of the artifact; or the destination has its bytes. -/
inductive Retrieves (root : Path) (c : Coordinates) (destination : Path) (w : World) :
    Except Failure Unit → World → Prop
  | refused {errno : Errno} (h : w.tree.isFile w.cwd (c.pathIn root) = .error errno) :
    Retrieves root c destination w (.error (Files.failure errno (c.pathIn root))) w
  | missing {e : Failure} (h : w.tree.isFile w.cwd (c.pathIn root) = .ok false)
      (hkind : e.IsRetrieval (retrievalTexts root c destination)) :
    Retrieves root c destination w (.error e) w
  | hindered {e : Failure} {v : World} (h : w.tree.isFile w.cwd (c.pathIn root) = .ok true)
      (hkind : e = .ofNull ∧ destination.hasNull = true ∨
        e.IsRetrieval (retrievalTexts root c destination)) (hadds : w.AddsDirectories v) :
    Retrieves root c destination w (.error e) v
  | brokenOff {bytes : List UInt8} {b : Break} {e : Failure} {v : World}
      (hread : w.tree.read w.cwd (c.pathIn root) = .ok bytes) (hbreak : Files.nextBreak w = some b)
      (hkind : e.IsRetrieval (retrievalTexts root c destination))
      (hwritten : Files.Written destination (bytes.take b.written) w v) :
    Retrieves root c destination w (.error e) v
  | copied {bytes : List UInt8} {v : World}
      (hread : w.tree.read w.cwd (c.pathIn root) = .ok bytes)
      (hwritten : Files.Written destination bytes w v) :
    Retrieves root c destination w (.ok ()) v

/-- A copying comes to one of these ends. -/
theorem retrieves_copyFrom (root : Path) (c : Coordinates) (destination : Path) (w : World) :
    Retrieves root c destination w ((copyFrom root c destination).runIn w).1
      ((copyFrom root c destination).runIn w).2 := by
  have hlook := Files.runIn_isFile (c.pathIn root) w
  unfold copyFrom
  rw [Action.runIn_bind, hlook]
  cases hfile : w.tree.isFile w.cwd (c.pathIn root) with
  | error errno => exact .refused hfile
  | ok found =>
    cases found with
    | false => exact .missing hfile ⟨_, rfl, rfl, List.mem_cons_self⟩
    | true =>
      obtain ⟨bytes, hread⟩ := FileTree.isFile_iff.mp hfile
      show Retrieves root c destination w
        (((Files.copyInto (c.pathIn root) destination).orFail Fault.isOs _).runIn w).1
        (((Files.copyInto (c.pathIn root) destination).orFail Fault.isOs _).runIn w).2
      have hsaid : Artifact.notCopiedText (c.pathIn root) destination
          ∈ retrievalTexts root c destination := List.mem_cons_of_mem _ List.mem_cons_self
      rw [Action.runIn_orFail]
      -- Either a directory or the target is refused, or the copy is made, all of it or up to the
      -- break.
      rcases Files.runIn_copyInto hread destination with ⟨e, v, hcopy, hadds⟩ | ⟨v, hcopy, hwritten⟩
      · rw [hcopy]
        refine .hindered hfile ?_ hadds
        have hthrown := Files.throws_copyInto (FileTree.hasNull_of_isFile hfile) _ _ _ hcopy
        cases hos : e.fault.isOs with
        | true => exact Or.inr ⟨_, rfl, rfl, hsaid⟩
        | false =>
          obtain ⟨hnull, rfl⟩ := hthrown.resolve_left fun h => by rw [Failure.IsOs, hos] at h; cases h
          exact Or.inl ⟨rfl, hnull⟩
      · rw [hcopy]
        cases hbreak : Files.nextBreak w with
        | none =>
          rw [hbreak] at hwritten
          exact .copied hread hwritten
        | some b =>
          rw [hbreak] at hwritten
          dsimp only [Files.copyResult]
          rw [if_pos (Files.isOs_copyFault _ _ b)]
          exact .brokenOff hread hbreak ⟨_, rfl, rfl, hsaid⟩ hwritten

/-- A copying that ended well found the artifact, and its bytes are at the destination. -/
theorem exists_bytes_of_copyFrom {destination : Path} {v : World}
    (h : (copyFrom root c destination).runIn w = (.ok ⟨⟩, v)) :
    ∃ bytes, w.tree.read w.cwd (c.pathIn root) = .ok bytes ∧
      v.tree.read v.cwd destination = .ok bytes := by
  have hretrieves := retrieves_copyFrom root c destination w
  rw [h] at hretrieves
  cases hretrieves with
  | copied hread hwritten => exact ⟨_, hread, hwritten.read⟩

/-- An artifact that is there is copied over another file, if nothing breaks the write off. -/
theorem runIn_copyFrom_of_files {destination : Path} {a b d : Place} {i j : Nat} {x y : Bool}
    {bytes old : List UInt8} (ha : w.tree.locate w.cwd true (c.pathIn root) = .ok a)
    (hartifact : w.tree.find? a = some (.file i x bytes))
    (hd : w.tree.locate w.cwd false destination.parent = .ok d)
    (hdirectory : w.tree.find? d = some .directory)
    (hb : w.tree.locate w.cwd true destination = .ok b)
    (hold : w.tree.find? b = some (.file j y old)) (hne : a ≠ b)
    (hbreaks : Files.nextBreak w = none) :
    ∃ v, (copyFrom root c destination).runIn w = (.ok ⟨⟩, v) := by
  obtain ⟨v, hcopy⟩ := Files.runIn_copy_of_files ha hartifact hb hold hne hbreaks
  have hinto : (Files.copyInto (c.pathIn root) destination).runIn w = (.ok ⟨⟩, v) := by
    unfold Files.copyInto
    rw [Action.runIn_bind_ok (Files.runIn_makeDirectoriesOf_of_directory hd hdirectory), hcopy]
  have hfile : w.tree.isFile w.cwd (c.pathIn root) = .ok true :=
    FileTree.isFile_iff.mpr ⟨bytes, FileTree.read_eq_ok.mpr ⟨a, i, x, ha, hartifact⟩⟩
  -- The look at the artifact is allowed, since the file can be read.
  have hlook : (Files.isFile (c.pathIn root)).runIn w = (.ok true, w) := by
    rw [Files.runIn_isFile, hfile]
    rfl
  refine ⟨v, ?_⟩
  unfold copyFrom
  rw [Action.runIn_bind_ok hlook, if_pos rfl]
  show ((Files.copyInto (c.pathIn root) destination).orFail Fault.isOs _).runIn w = _
  rw [Action.runIn_orFail, hinto]

end Repository

namespace Acquirer

variable {root build : Path} {version : String}

/-! ## One acquisition -/

/-- What keeps a jar up to date out of a directory of artifacts. -/
def fromStore (root build : Path) : Acquirer :=
  ⟨.localStore root, build⟩

/-- Where an artifact of a version lies in a local repository. -/
def artifactPath (root : Path) (version : String) : Path :=
  (Coordinates.retrolambda version).pathIn root

/-- What the retrieval of a version says if it fails. -/
def retrievalTexts (root build : Path) (version : String) : List String :=
  Repository.retrievalTexts root (.retrolambda version) (fromStore root build).jarPath

/-- The path of the jar has a null character if the build directory has one. -/
theorem hasNull_jarPath (a : Acquirer) : a.jarPath.hasNull = a.buildDirectory.hasNull := by
  have hdirectory : ∀ p : Path, p.child "retrolambda" = ⟨p.anchor, p.names ++ ["retrolambda"]⟩ :=
    Path.child_of_name (by decide)
  have hfile : ∀ p : Path, p.child "retrolambda.jar" = ⟨p.anchor, p.names ++ ["retrolambda.jar"]⟩ :=
    Path.child_of_name (by decide)
  rw [jarPath, hfile, hdirectory, Path.hasNull, List.any_append, List.any_append, Bool.or_assoc]
  exact Bool.or_false _

/-- A refusal of the system says nothing of publication. -/
theorem notPublishedMessage?_failure (errno : Errno) (p : Path) :
    notPublishedMessage? (Files.failure errno p).fault = none := by
  rw [Files.failure]
  split <;> rfl

/-- The failures of a copying have no words that are looked for, so none is taken for an artifact that is
yet to be published. -/
theorem notPublishedMessage?_of_isRetrieval (hroot : Artifact.saysNotPackaged root.toString = false)
    (hbuild : Artifact.saysNotPackaged build.toString = false)
    (hversion : Artifact.saysNotPackaged version = false) {e : Failure}
    (h : e.IsRetrieval (retrievalTexts root build version)) :
    notPublishedMessage? e.fault = none := by
  obtain ⟨f, hfault, hkind, hmessage⟩ := h
  have hclear : Artifact.saysNotPackaged f.message = false := by
    rcases List.mem_pair.mp hmessage with h | h
    · rw [h]
      exact Artifact.saysNotPackaged_notFoundText hroot hversion
    · rw [h]
      exact Artifact.saysNotPackaged_notCopiedText hroot hversion hbuild _
  rw [hfault, notPublishedMessage?, hkind]
  dsimp only
  rw [hclear, if_neg Bool.false_ne_true]

/-- An acquisition from a local repository is the copying, if the words that are looked for in the
messages of failures are in none of the texts that these are made of. -/
theorem retrieves_ensurePresent (hroot : Artifact.saysNotPackaged root.toString = false)
    (hbuild : Artifact.saysNotPackaged build.toString = false)
    (hversion : Artifact.saysNotPackaged version = false) (w : World) :
    ∃ r v, ((fromStore root build).ensurePresent version).runIn w = (r.map fun _ => .present, v) ∧
      Repository.Retrieves root (.retrolambda version) (fromStore root build).jarPath
        (asked version w) r v := by
  have hretrieves := Repository.retrieves_copyFrom root (.retrolambda version)
    (fromStore root build).jarPath (asked version w)
  have hstore : (fromStore root build).repository.copy = Repository.copyFrom root := rfl
  rcases hcopy : (Repository.copyFrom root (.retrolambda version)
    (fromStore root build).jarPath).runIn (asked version w) with ⟨r, v⟩
  rw [hcopy] at hretrieves
  refine ⟨r, v, ?_, hretrieves⟩
  rw [runIn_ensurePresent, hstore, hcopy]
  cases r with
  | ok x => rfl
  | error e =>
    have hkind (h : e.IsRetrieval (retrievalTexts root build version)) :=
      notPublishedMessage?_of_isRetrieval hroot hbuild hversion h
    -- No failure of a local store reads like that of a version that is not published.
    have hnone : notPublishedMessage? e.fault = none := by
      cases hretrieves with
      | refused h => exact notPublishedMessage?_failure _ _
      | missing h hretrieval => exact hkind hretrieval
      | hindered h hretrieval hadds =>
        rcases hretrieval with ⟨rfl, -⟩ | hretrieval
        · rfl
        · exact hkind hretrieval
      | brokenOff hread hbreak hretrieval hwritten => exact hkind hretrieval
    dsimp only
    rw [hnone]
    rfl

/-- The system broke the writing of the jar off: the retrieval failed, and the jar has a beginning of the
artifact. -/
def BrokenOff (root build : Path) (version : String) (w : World) : Prop :=
  let start := asked version w
  ∃ bytes b e v, ((fromStore root build).ensurePresent version).runIn w = (.error e, v) ∧
    e.IsRetrieval (retrievalTexts root build version) ∧ Files.nextBreak start = some b ∧
    start.tree.read start.cwd (artifactPath root version) = .ok bytes ∧
    Files.Written (fromStore root build).jarPath (bytes.take b.written) start v

/-- An acquisition puts the bytes of the artifact into the jar and changes no other file, or it fails
and changes no file, or the writing of the jar was broken off. -/
theorem ensurePresent_local (hroot : Artifact.saysNotPackaged root.toString = false)
    (hbuild : Artifact.saysNotPackaged build.toString = false)
    (hversion : Artifact.saysNotPackaged version = false) (w : World) :
    let start := asked version w
    (∃ bytes v, ((fromStore root build).ensurePresent version).runIn w = (.ok .present, v) ∧
      start.tree.read start.cwd (artifactPath root version) = .ok bytes ∧
      Files.Written (fromStore root build).jarPath bytes start v) ∨
    (∃ e v, ((fromStore root build).ensurePresent version).runIn w = (.error e, v) ∧
      ((∀ errno, start.tree.isFile start.cwd (artifactPath root version) ≠ .error errno) →
        build.hasNull = false → e.IsRetrieval (retrievalTexts root build version)) ∧
      start.AddsDirectories v) ∨
    BrokenOff root build version w := by
  intro start
  obtain ⟨r, v, hrun, hretrieves⟩ := retrieves_ensurePresent hroot hbuild hversion w
  cases hretrieves with
  | refused h =>
    exact Or.inr (Or.inl ⟨_, _, hrun, fun hnot => absurd h (hnot _), Std.Refl.refl _⟩)
  | missing h hkind => exact Or.inr (Or.inl ⟨_, _, hrun, fun _ _ => hkind, Std.Refl.refl _⟩)
  | hindered h hkind hadds =>
    refine Or.inr (Or.inl ⟨_, _, hrun, fun _ hnull => hkind.resolve_left ?_, hadds⟩)
    -- The jar is below the build directory, whose path has no null byte.
    rintro ⟨-, hjar⟩
    rw [hasNull_jarPath, show (fromStore root build).buildDirectory.hasNull = false from hnull] at hjar
    cases hjar
  | brokenOff hread hbreak hkind hwritten =>
    exact Or.inr (Or.inr ⟨_, _, _, _, hrun, hkind, hbreak, hread, hwritten⟩)
  | copied hread hwritten => exact Or.inl ⟨_, _, hrun, hread, hwritten⟩

/-- Without the artifact nothing is done at all. -/
theorem ensurePresent_of_no_artifact (hroot : Artifact.saysNotPackaged root.toString = false)
    (hbuild : Artifact.saysNotPackaged build.toString = false)
    (hversion : Artifact.saysNotPackaged version = false) {w : World}
    (h : w.tree.isFile w.cwd (artifactPath root version) ≠ .ok true) :
    ∃ e, ((fromStore root build).ensurePresent version).runIn w = (.error e, asked version w) ∧
      (w.tree.isFile w.cwd (artifactPath root version) = .ok false →
        e.IsRetrieval (retrievalTexts root build version)) := by
  have hrecorded : w.OnlyRecorded (asked version w) := World.onlyRecorded_recorded w _ _ _
  have hfile : (asked version w).tree.isFile (asked version w).cwd (artifactPath root version)
      = w.tree.isFile w.cwd (artifactPath root version) := by
    rw [hrecorded.cwd, hrecorded.grown.sameShape.isFile]
  -- The message about the acquisition does not make the artifact appear.
  have hread {bytes : List UInt8} :
      (asked version w).tree.read (asked version w).cwd (artifactPath root version) ≠ .ok bytes :=
    fun hread => h (hfile ▸ FileTree.isFile_iff.mpr ⟨bytes, hread⟩)
  rw [← hfile] at h ⊢
  obtain ⟨r, v, hrun, hretrieves⟩ := retrieves_ensurePresent hroot hbuild hversion w
  cases hretrieves with
  | refused hrefused =>
    refine ⟨_, hrun, fun hfound => ?_⟩
    cases hrefused.symm.trans hfound
  | missing h' hkind => exact ⟨_, hrun, fun _ => hkind⟩
  | hindered h' hkind hadds => exact absurd h' h
  | brokenOff hread' hbreak hkind hwritten => exact absurd hread' hread
  | copied hread' hwritten => exact absurd hread' hread

/-- What comes of the acquisition of a version. -/
def outcome (a : Acquirer) (version : String) (w : World) : Except Failure Acquired :=
  ((a.ensurePresent version).runIn w).1

/-- An artifact that is there is copied over an older jar, unless the jar is the artifact or the system
breaks the writing off. -/
theorem outcome_of_files {w : World} {a b d : Place} {i j : Nat} {x y : Bool} {bytes old : List UInt8}
    (ha : (asked version w).tree.locate (asked version w).cwd true (artifactPath root version) = .ok a)
    (hartifact : (asked version w).tree.find? a = some (.file i x bytes))
    (hd : (asked version w).tree.locate (asked version w).cwd false
      (fromStore root build).jarPath.parent = .ok d)
    (hdirectory : (asked version w).tree.find? d = some .directory)
    (hb : (asked version w).tree.locate (asked version w).cwd true
      (fromStore root build).jarPath = .ok b)
    (hjar : (asked version w).tree.find? b = some (.file j y old)) (hne : a ≠ b)
    (hbreaks : Files.nextBreak (asked version w) = none) :
    (fromStore root build).outcome version w = .ok .present := by
  obtain ⟨v, hrun⟩ :=
    Repository.runIn_copyFrom_of_files ha hartifact hd hdirectory hb hjar hne hbreaks
  have hpresent : ((fromStore root build).ensurePresent version).runIn w = (.ok .present, v) :=
    ensurePresent_eq_present.mpr hrun
  exact congrArg Prod.fst hpresent

/-! ## One acquisition after another -/

/-- A path leads to a file with some bytes, and the file takes no messages such as those of an
acquisition. -/
def KeepsFile (p : Path) (bytes : List UInt8) (w : World) : Prop :=
  ∃ place id x, w.tree.locate w.cwd true p = .ok place ∧
    w.tree.find? place = some (.file id x bytes) ∧ ¬ w.log.WritesTo .info id

namespace KeepsFile

variable {p : Path} {bytes : List UInt8} {w w' : World}

/-- What was written stays a file of its own, unless it is a log. -/
theorem of_written (h : Files.Written p bytes w w')
    (hlog : ∀ id x b, w'.tree.status w'.cwd p = .ok (.file id x b) → ¬ w'.log.WritesTo .info id) :
    KeepsFile p bytes w' := by
  obtain ⟨place, id, x, hplace, hfile, -⟩ := h
  exact ⟨place, id, x, hplace, hfile,
    hlog id x bytes (FileTree.status_eq_ok.mpr ⟨place, hplace, hfile⟩)⟩

/-- A kept file can be read. -/
theorem read (h : KeepsFile p bytes w) : w.tree.read w.cwd p = .ok bytes := by
  obtain ⟨place, id, x, hplace, hfile, -⟩ := h
  exact FileTree.read_eq_ok.mpr ⟨place, id, x, hplace, hfile⟩

/-- The message of an acquisition does not reach the file. -/
theorem asked (h : KeepsFile p bytes w) (version : String) :
    KeepsFile p bytes (asked version w) := by
  obtain ⟨place, id, x, hplace, hfile, hlog⟩ := h
  have hrecorded : w.OnlyRecorded (Acquirer.asked version w) := World.onlyRecorded_recorded w _ _ _
  refine ⟨place, id, x, ?_, ?_, by rwa [hrecorded.log]⟩
  · rw [hrecorded.cwd]
    refine FileTree.locate_of_keepsWays_follow hrecorded.grown.isPartOf.keepsWays hplace ?_
    intro target hlink
    obtain ⟨id', x', bytes', hfile'⟩ := hrecorded.grown.sameShape.file hfile
    rw [hfile'] at hlink
    cases hlink
  · exact World.find?_recorded hlog hfile _ _

/-- New directories do not hide the file. -/
theorem of_addsDirectories (h : KeepsFile p bytes w) (hw : w.AddsDirectories w') :
    KeepsFile p bytes w' := by
  obtain ⟨place, id, x, hplace, hfile, hlog⟩ := h
  obtain ⟨hplace', hfile'⟩ := hw.tree.locate_file hplace hfile
  refine ⟨place, id, x, ?_, hfile', ?_⟩
  · rwa [hw.onlyTree.cwd]
  · rwa [hw.onlyTree.log]

end KeepsFile

/-- The world after acquisitions of some versions, whatever comes of each. -/
def after (a : Acquirer) (w : World) (versions : List String) : World :=
  versions.foldl (fun w version => ((a.ensurePresent version).runIn w).2) w

/-- Of some acquisitions, that of a version is the last one that said that the jar is present. -/
structure LastPresent (a : Acquirer) (w : World) (before : List String) (version : String)
    (later : List String) : Prop where
  present : a.outcome version (a.after w before) = .ok .present
  not_later : ∀ others v rest, later = others ++ v :: rest →
    a.outcome v (a.after w (before ++ version :: others)) ≠ .ok .present

/-- Acquisitions in a row are those before and then those after. -/
theorem after_append (a : Acquirer) (w : World) (before later : List String) :
    a.after w (before ++ later) = a.after (a.after w before) later :=
  List.foldl_append

/-- The set-up of the log stays as it is. -/
theorem log_after (w : World) (versions : List String) :
    ((fromStore root build).after w versions).log = w.log := by
  induction versions generalizing w with
  | nil => rfl
  | cons version versions ih =>
    exact (ih _).trans ((fromStore root build).within_ensurePresent World.covers_log version nofun w)

/-- Acquisitions that do not end well, and whose writing is not broken off, leave the jar alone. -/
theorem keepsFile_after (hroot : Artifact.saysNotPackaged root.toString = false)
    (hbuild : Artifact.saysNotPackaged build.toString = false) {later : List String}
    (hlater : ∀ v ∈ later, Artifact.saysNotPackaged v = false) {p : Path} {bytes : List UInt8}
    {w : World} (h : KeepsFile p bytes w)
    (hnot : ∀ others v rest, later = others ++ v :: rest →
      (fromStore root build).outcome v ((fromStore root build).after w others) ≠ .ok .present ∧
        ¬ BrokenOff root build v ((fromStore root build).after w others)) :
    KeepsFile p bytes ((fromStore root build).after w later) := by
  -- Each acquisition fails, so it adds a message and directories, and the file outlives both.
  induction later generalizing w with
  | nil => exact h
  | cons v later ih =>
    obtain ⟨hfirst, hwhole⟩ := hnot [] v later rfl
    rcases ensurePresent_local hroot hbuild (hlater v List.mem_cons_self) w with
      ⟨bytes', u, hrun, -⟩ | ⟨e, u, hrun, -, hadds⟩ | hbroken
    · exact absurd (congrArg Prod.fst hrun) hfirst
    · have hstep : ∀ others, (fromStore root build).after w (v :: others)
          = (fromStore root build).after u others := by
        intro others
        rw [after, List.foldl_cons, hrun]
        rfl
      rw [hstep]
      refine ih (fun v hv => hlater v (List.mem_cons_of_mem _ hv))
        ((h.asked v).of_addsDirectories hadds) fun others v' rest hsplit => ?_
      rw [← hstep]
      exact hnot (v :: others) v' rest (by rw [hsplit]; rfl)
    · exact absurd hbroken hwhole

/-- The jar has the bytes of the last artifact that was said to be present, unless it takes the
messages of an acquisition or a later writing was broken off. -/
theorem read_jar_after (hroot : Artifact.saysNotPackaged root.toString = false)
    (hbuild : Artifact.saysNotPackaged build.toString = false) {w : World}
    {before later : List String}
    (hclean : ∀ v ∈ version :: later, Artifact.saysNotPackaged v = false)
    (hlast : (fromStore root build).LastPresent w before version later)
    (hwhole : ∀ others v rest, later = others ++ v :: rest →
      ¬ BrokenOff root build v ((fromStore root build).after w (before ++ version :: others))) :
    let a := fromStore root build
    let start := asked version (a.after w before)
    let received := a.after w (before ++ [version])
    let final := a.after w (before ++ version :: later)
    (∀ id x bytes, received.tree.status received.cwd a.jarPath = .ok (.file id x bytes) →
      ¬ w.log.WritesTo .info id) →
    ∃ bytes, start.tree.read start.cwd (artifactPath root version) = .ok bytes ∧
      final.tree.read final.cwd a.jarPath = .ok bytes := by
  intro a start received final hlog
  have hsplit : before ++ version :: later = (before ++ [version]) ++ later :=
    List.append_cons before version later
  have hpresent := hlast.present
  rcases ensurePresent_local hroot hbuild (hclean version List.mem_cons_self) (a.after w before) with
    ⟨bytes, v, hrun, hread, hwritten⟩ | ⟨e, v, hrun, -, -⟩ | ⟨bytes, b, e, v, hrun, -⟩
  · have hreceived : received = v := by
      rw [show received = _ from after_append a w before [version]]
      exact congrArg Prod.snd hrun
    have hkept : KeepsFile a.jarPath bytes received := by
      rw [← hreceived] at hwritten
      refine .of_written hwritten ?_
      rwa [show received.log = w.log from log_after w _]
    refine ⟨bytes, hread, ?_⟩
    -- From where the jar was received on, no acquisition ends well.
    rw [show final = a.after received later by rw [← after_append, ← hsplit]]
    refine (keepsFile_after hroot hbuild (fun v hv => hclean v (List.mem_cons_of_mem _ hv)) hkept ?_).read
    intro others v' rest hrest
    rw [← after_append, ← List.append_cons]
    exact ⟨hlast.not_later others v' rest hrest, hwhole others v' rest hrest⟩
  -- It did not fail, since the jar is said to be present.
  all_goals
    rw [outcome, hrun] at hpresent
    cases hpresent

/-- **Acquisition from a local repository is exact, and a failure does no damage unless the system breaks
the writing off.** It says what it retrieves, which changes the files of the log alone. Then it gives the
jar the bytes of the artifact, whatever was there, and leaves every other file as it was; or it fails, and
at most there are new directories; or the writing of the jar is broken off, which fails the retrieval and
leaves a beginning of the artifact in the jar and every other file as it was. The failure is a failed
retrieval, unless the look at the artifact was refused or the build directory is no path. Without the
artifact it fails and there is not even a new directory. So after any acquisitions the jar has the bytes
of the last artifact that was said to be present, unless the writing of a later one was broken off or the
jar is a file of the log itself. -/
theorem acquisition_exact (hroot : Artifact.saysNotPackaged root.toString = false)
    (hbuild : Artifact.saysNotPackaged build.toString = false) :
    let a := fromStore root build
    (∀ version, Artifact.saysNotPackaged version = false → ∀ w : World,
      let start := asked version w
      (w.OnlyRecorded start ∧ ∀ q id x bytes, w.tree.find? q = some (.file id x bytes) →
        ¬ w.log.WritesTo .info id → start.tree.find? q = some (.file id x bytes)) ∧
      ((∃ bytes v, (a.ensurePresent version).runIn w = (.ok .present, v) ∧
          start.tree.read start.cwd (artifactPath root version) = .ok bytes ∧
          v.tree.read v.cwd a.jarPath = .ok bytes ∧ Files.Written a.jarPath bytes start v) ∨
        (∃ e v, (a.ensurePresent version).runIn w = (.error e, v) ∧
          ((∀ errno, start.tree.isFile start.cwd (artifactPath root version) ≠ .error errno) →
            build.hasNull = false → e.IsRetrieval (retrievalTexts root build version)) ∧
          start.AddsDirectories v) ∨
        BrokenOff root build version w) ∧
      (w.tree.isFile w.cwd (artifactPath root version) ≠ .ok true →
        ∃ e, (a.ensurePresent version).runIn w = (.error e, start) ∧
          (w.tree.isFile w.cwd (artifactPath root version) = .ok false →
            e.IsRetrieval (retrievalTexts root build version)))) ∧
    ∀ w before version later,
      (∀ v ∈ version :: later, Artifact.saysNotPackaged v = false) →
      a.LastPresent w before version later →
      (∀ others v rest, later = others ++ v :: rest →
        ¬ BrokenOff root build v (a.after w (before ++ version :: others))) →
      let start := asked version (a.after w before)
      let received := a.after w (before ++ [version])
      let final := a.after w (before ++ version :: later)
      (∀ id x bytes, received.tree.status received.cwd a.jarPath = .ok (.file id x bytes) →
        ¬ w.log.WritesTo .info id) →
      ∃ bytes, start.tree.read start.cwd (artifactPath root version) = .ok bytes ∧
        final.tree.read final.cwd a.jarPath = .ok bytes := by
  intro a
  refine ⟨?_, ?_⟩
  · intro version hversion w start
    refine ⟨⟨World.onlyRecorded_recorded w _ _ _, fun q id x bytes hfile hid => ?_⟩, ?_, ?_⟩
    · exact World.find?_recorded hid hfile _ _
    · refine (ensurePresent_local hroot hbuild hversion w).imp_left ?_
      rintro ⟨bytes, v, hrun, hread, hwritten⟩
      exact ⟨bytes, v, hrun, hread, hwritten.read, hwritten⟩
    · exact ensurePresent_of_no_artifact hroot hbuild hversion
  · -- From the version that was received last, the failures after it leave the jar as it is.
    intro w before version later hclean hlast hwhole
    exact read_jar_after hroot hbuild hclean hlast hwhole

/-! ## A local repository with one version -/

/-- A machine with one version in a local repository, an older jar in the build directory, and a file
for the log. -/
def stockedMachine : World where
  tree := { nodes := [(["run.log"], .file 3 false []),
    (["repo"], .directory), (["repo", "com"], .directory),
    (["repo", "com", "kohlschutter"], .directory),
    (["repo", "com", "kohlschutter", "retrolambda"], .directory),
    (["repo", "com", "kohlschutter", "retrolambda", "retrolambda"], .directory),
    (["repo", "com", "kohlschutter", "retrolambda", "retrolambda", "2.5.8"], .directory),
    (["repo", "com", "kohlschutter", "retrolambda", "retrolambda", "2.5.8",
      "retrolambda-2.5.8.jar"], .file 1 false [8]),
    (["target"], .directory), (["target", "retrolambda"], .directory),
    (["target", "retrolambda", "retrolambda.jar"], .file 2 false [1, 2, 3])] }
  cwd := []
  environment := []
  log := ⟨.warning, [.file 3 .info]⟩

/-- What keeps the jar up to date there. -/
abbrev stockedAcquirer : Acquirer :=
  fromStore ⟨.root, ["repo"]⟩ ⟨.root, ["target"]⟩

/-- Neither the store nor the build directory of the machine has the mark in its path. -/
theorem not_saysNotPackaged_stocked :
    Artifact.saysNotPackaged (⟨.root, ["repo"]⟩ : Path).toString = false ∧
    Artifact.saysNotPackaged (⟨.root, ["target"]⟩ : Path).toString = false := by decide +kernel

/-- Another version is not there. -/
theorem no_artifact_stockedMachine :
    stockedMachine.tree.isFile [] (artifactPath ⟨.root, ["repo"]⟩ "9") = .ok false := by
  have hpath : artifactPath ⟨.root, ["repo"]⟩ "9" = ⟨.root, ["repo", "com", "kohlschutter",
      "retrolambda", "retrolambda"] ++ "9" :: ["retrolambda-9.jar"]⟩ := by cbv
  rw [hpath]
  apply FileTree.isFile_of_noEntry
  apply FileTree.status_of_locate_error
  exact FileTree.locate_of_missing _ (by decide) (by decide) (by decide) (by decide) rfl
    (List.cons_ne_nil _ _)

/-- The path of its artifact, name by name. -/
theorem artifactPath_stocked : artifactPath ⟨.root, ["repo"]⟩ "2.5.8" = ⟨.root, ["repo", "com",
    "kohlschutter", "retrolambda", "retrolambda", "2.5.8", "retrolambda-2.5.8.jar"]⟩ := by cbv

theorem jarPath_stocked :
    stockedAcquirer.jarPath = ⟨.root, ["target", "retrolambda", "retrolambda.jar"]⟩ := by cbv

/-- The artifact lies at its path. -/
theorem locate_artifact_stockedMachine : stockedMachine.tree.locate [] true
    (artifactPath ⟨.root, ["repo"]⟩ "2.5.8") = .ok ["repo", "com", "kohlschutter", "retrolambda",
      "retrolambda", "2.5.8", "retrolambda-2.5.8.jar"] := by
  rw [artifactPath_stocked]
  exact FileTree.locate_of_directories (by decide) (by decide) (by decide) (by decide)
    (by rintro target ⟨⟩)

/-- The artifact of the machine can be had. -/
theorem outcome_stockedMachine : stockedAcquirer.outcome "2.5.8" stockedMachine = .ok .present := by
  have hjar : stockedMachine.tree.locate [] true stockedAcquirer.jarPath
      = .ok ["target", "retrolambda", "retrolambda.jar"] := by
    rw [jarPath_stocked]
    exact FileTree.locate_of_directories (by decide) (by decide) (by decide) (by decide)
      (by rintro target ⟨⟩)
  have hparent : stockedMachine.tree.locate [] false stockedAcquirer.jarPath.parent
      = .ok ["target", "retrolambda"] := by
    rw [jarPath_stocked]
    exact FileTree.locate_of_directories (by decide) (by decide) (by decide) (by decide)
      (by rintro target ⟨⟩)
  exact outcome_of_files (w := stockedMachine) locate_artifact_stockedMachine rfl hparent rfl hjar rfl
    (by decide) rfl

/-- After a version that is not there and one that is, the jar has the bytes of the latter. -/
theorem acquisition_exact_stocked :
    stockedAcquirer.LastPresent stockedMachine ["9"] "2.5.8" [] ∧
    (stockedAcquirer.after stockedMachine ["9", "2.5.8"]).tree.read
      (stockedAcquirer.after stockedMachine ["9", "2.5.8"]).cwd stockedAcquirer.jarPath = .ok [8] := by
  obtain ⟨hroot, hbuild⟩ := not_saysNotPackaged_stocked
  obtain ⟨hone, hmany⟩ := acquisition_exact hroot hbuild
  -- Nothing is told, so the version that is not there leaves the machine as it is.
  have hbefore : stockedAcquirer.after stockedMachine ["9"] = stockedMachine := by
    obtain ⟨-, -, hmissing⟩ := hone "9" (by decide +kernel) stockedMachine
    obtain ⟨e, hrun, -⟩ := hmissing fun h => nomatch no_artifact_stockedMachine.symm.trans h
    exact congrArg Prod.snd hrun
  have hlast : stockedAcquirer.LastPresent stockedMachine ["9"] "2.5.8" [] := by
    refine ⟨by rw [hbefore, outcome_stockedMachine], ?_⟩
    intro others v rest hsplit
    exact absurd hsplit.symm (List.append_ne_nil_of_right_ne_nil _ (List.cons_ne_nil _ _))
  have hclean : ∀ v ∈ ["2.5.8"], Artifact.saysNotPackaged v = false := by decide +kernel
  have hnone : ∀ others v rest, ([] : List String) = others ++ v :: rest →
      ¬ BrokenOff ⟨.root, ["repo"]⟩ ⟨.root, ["target"]⟩ v
        (stockedAcquirer.after stockedMachine (["9"] ++ "2.5.8" :: others)) := by
    intro others v rest hsplit
    exact absurd hsplit.symm (List.append_ne_nil_of_right_ne_nil _ (List.cons_ne_nil _ _))
  obtain ⟨bytes, hread, hjar⟩ := hmany stockedMachine ["9"] "2.5.8" [] hclean hlast hnone
    fun id x bytes _ hwrites => absurd hwrites.1 (by decide)
  have hbytes : bytes = [8] := by
    have hstocked : stockedMachine.tree.read [] (artifactPath ⟨.root, ["repo"]⟩ "2.5.8") = .ok [8] :=
      FileTree.read_eq_ok.mpr ⟨_, 1, false, locate_artifact_stockedMachine, rfl⟩
    rw [show asked "2.5.8" (stockedAcquirer.after stockedMachine ["9"]) = stockedMachine by
      rw [hbefore]; rfl] at hread
    exact Except.ok.inj (hread.symm.trans hstocked)
  rw [hbytes] at hjar
  exact ⟨hlast, hjar⟩

theorem inFamily_logger : Log.inFamily Artifact.logger = true := by decide +kernel

/-- Where messages go to a file, that file changes even if the version is not there. -/
theorem acquisition_adds_log_line :
    ∃ e v, (stockedAcquirer.ensurePresent "9").runIn { stockedMachine with
        log := ⟨.info, [.file 3 .info]⟩ } = (.error e, v) ∧
      e.IsRetrieval (retrievalTexts ⟨.root, ["repo"]⟩ ⟨.root, ["target"]⟩ "9") ∧
      v.tree.find? ["run.log"] ≠ stockedMachine.tree.find? ["run.log"] := by
  have hversion : Artifact.saysNotPackaged "9" = false := by decide +kernel
  obtain ⟨hroot, hbuild⟩ := not_saysNotPackaged_stocked
  have hfound : ({ stockedMachine with log := ⟨.info, [.file 3 .info]⟩ } : World).tree.isFile []
      (artifactPath ⟨.root, ["repo"]⟩ "9") = .ok false := no_artifact_stockedMachine
  obtain ⟨e, hrun, hretrieval⟩ := ensurePresent_of_no_artifact hroot hbuild hversion
    (w := { stockedMachine with log := ⟨.info, [.file 3 .info]⟩ })
    (fun h => nomatch hfound.symm.trans h)
  have hfile : stockedMachine.tree.find? ["run.log"] = some (.file 3 false []) := rfl
  refine ⟨e, _, hrun, hretrieval hfound, ?_⟩
  exact World.find?_recorded_ne (w := { stockedMachine with log := ⟨.info, [.file 3 .info]⟩ }) rfl
    inFamily_logger _ hfile

end Acquirer

end Downlevel
