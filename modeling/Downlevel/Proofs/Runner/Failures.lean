import Downlevel.Proofs.Resolution.Override
import Downlevel.Proofs.Runner.Course
import Downlevel.Proofs.Version.TooLong
import Downlevel.Proofs.World.Throwing
/-!
# What runs fail with

A run turns what goes wrong on its way into faults of its own, but not everything. A numeral in a
version that is too long to be read, a look at a file that the system refuses, a path that the system
is never asked about, the encoding that a file of toolchains claims to be in, and a process that ends
without an outcome reach the caller as they are, as does an order to stop that an entry point gives.
-/
namespace Downlevel

/-! ## Documents -/

/-- The codecs fail with a failure, for some encoding. -/
def Xml.Codecs.Refuse (codecs : Codecs) (e : Failure) : Prop :=
  ∃ name, codecs.encoding name = .error e

namespace Xml

variable {codecs : Codecs} {bytes : List UInt8} {e : Failure}

/-- The frame of a text is not refused by a codec. -/
theorem frameOfText_ne_refused {isAlone : Bool} {cs : List Char} :
    frameOfText isAlone cs ≠ .refused e := by
  intro h
  unfold frameOfText at h
  split at h
  · cases h
  · split at h <;> cases h

/-- A frame of two-byte units is refused by a codec only. -/
theorem refuse_of_frameOfUnits {bigEndian : Bool}
    (h : frameOfUnits codecs bigEndian bytes = .refused e) : codecs.Refuse e := by
  unfold frameOfUnits at h
  split at h
  · cases h
  · split at h
    · cases h
    · split at h
      · exact absurd h frameOfText_ne_refused
      · split at h
        · exact absurd h frameOfText_ne_refused
        · cases h
      · split at h
        · rename_i herror
          cases h
          exact ⟨_, herror⟩
        · cases h

/-- The frame of bytes in a known encoding is not refused by a codec. -/
theorem frameOfEncoded_ne_refused {isAlone : Bool} {encoding : Encoding} :
    frameOfEncoded isAlone encoding bytes ≠ .refused e := by
  intro h
  unfold frameOfEncoded at h
  split at h
  · exact frameOfText_ne_refused h
  · cases h

/-- A frame of bytes is refused by a codec only. -/
theorem refuse_of_frameOfBytes (h : frameOfBytes codecs bytes = .refused e) : codecs.Refuse e := by
  unfold frameOfBytes at h
  split at h
  · cases h
  · split at h
    · cases h
    · cases h
    · exact absurd h frameOfEncoded_ne_refused
    · split at h
      · rename_i herror
        cases h
        exact ⟨_, herror⟩
      · cases h
      · exact absurd h frameOfEncoded_ne_refused

/-- A text is no document because it is malformed, or because the codecs fail on its encoding. -/
theorem refuse_of_parse (h : parse codecs bytes = .error e) :
    e = notWellFormed ∨ codecs.Refuse e := by
  unfold parse at h
  split at h
  · cases h
    exact Or.inl rfl
  · rename_i hframe
    cases h
    right
    unfold frame at hframe
    split at hframe
    · exact refuse_of_frameOfUnits hframe
    · exact refuse_of_frameOfUnits hframe
    · exact refuse_of_frameOfBytes hframe
    · exact refuse_of_frameOfUnits hframe
    · exact refuse_of_frameOfUnits hframe
    · exact refuse_of_frameOfBytes hframe
  · split at h
    · cases h
    · cases h
      exact Or.inl rfl

end Xml

/-! ## Toolchains -/

namespace Registry

theorem throws_readElements {P : Failure → Prop} (source : String) (es : List Xml.Element) :
    (readElements source es).Throws P := by
  induction es with
  | nil => exact Action.throws_pure _
  | cons e es ih =>
    unfold readElements
    refine Action.Throws.ite ih ?_
    split
    · exact ih.bind fun _ => Action.throws_pure _
    · exact (Action.throws_logAs _ _ _).bind fun _ => ih

theorem throws_readRoot {P : Failure → Prop} (source : String) (root : Xml.Element) :
    (readRoot source root).Throws P := by
  refine (throws_readElements _ _).bind fun _ => ?_
  exact (Action.throws_logAs _ _ _).bind fun _ => Action.throws_pure _

/-- A document that is there is not read for a refusal of the system, because it is malformed, or for its
encoding. -/
theorem fails_of_readDocument {p : Path} {w w' : World} {e : Failure}
    (h : (readDocument p).runIn w = (.error e, w')) :
    isReadFault e.fault = true ∨ w.machine.libraries.codecs.Refuse e ∨ p.hasNull = true := by
  rw [runIn_readDocument] at h
  cases hread : Files.refused p (w.tree.read w.cwd p) with
  | error e' =>
    rw [hread] at h
    cases h
    rcases Files.throws_read p w e w (by rw [Files.runIn_read, hread]) with hos | ⟨hnull, -⟩
    · left
      unfold isReadFault
      split
      · rfl
      · exact hos
    · exact Or.inr (Or.inr hnull)
  | ok bytes =>
    rw [hread] at h
    rcases Xml.refuse_of_parse (Prod.mk.inj h).1 with rfl | hrefuse
    · exact Or.inl rfl
    · exact Or.inr (Or.inl hrefuse)

/-- A file of toolchains fails to be loaded with a fault of the run, unless a look at it is refused or the
codecs fail on its encoding. -/
theorem fails_of_load {p : Option Path} {w w' : World} {e : Failure}
    (h : (load p).runIn w = (.error e, w')) :
    e.IsRun ∨ e.IsRefusedLook ∨ w.machine.libraries.codecs.Refuse e := by
  have hnone (text : String) :
      ((logAs logger .debug text >>= fun _ => pure {}) : Action Registry).Throws fun _ => False :=
    (Action.throws_logAs _ _ _).bind fun _ => Action.throws_pure _
  cases p with
  | none => exact (hnone _ _ _ _ h).elim
  | some p =>
    unfold load at h
    dsimp only at h
    rw [Action.runIn_bind, Files.runIn_holds] at h
    cases hholds : Files.refused p (w.tree.holds w.cwd p) with
    | error e' =>
      rw [hholds] at h
      cases h
      exact Or.inr (Or.inl (Files.throws_holds p w e w (by rw [Files.runIn_holds, hholds])))
    | ok found =>
      rw [hholds] at h
      cases found with
      | false => exact (hnone _ _ _ _ h).elim
      | true =>
        dsimp only at h
        rw [if_pos rfl, Action.runIn_bind, Action.runIn_orFail] at h
        rcases hdocument : (readDocument p).runIn w with ⟨e' | root, v⟩
        · rw [hdocument] at h
          dsimp only at h
          cases h
          split
          · exact Or.inl (Failure.isRun_because _ e')
          · rename_i hnot
            -- The path has no null byte, as something was found there.
            have hrefuse := (fails_of_readDocument hdocument).resolve_left hnot
            refine Or.inr (Or.inr (hrefuse.resolve_right fun hnull => ?_))
            rw [FileTree.holds, FileTree.look, FileTree.status, FileTree.locate_of_hasNull hnull]
              at hholds
            cases hholds
        · rw [hdocument] at h
          exact ((throws_readRoot _ _).bind fun _ => Action.throws_pure _ :
            Action.Throws (fun _ => False) _) _ _ _ h |>.elim

/-- Selecting a toolchain fails for a version with too many digits. -/
theorem throws_select (r : Registry) (type : String) (requirements : List (String × String)) :
    (r.select type requirements).Throws Numeral.IsTooLong := by
  refine (Action.throws_ofExcept fun e => isTooLong_of_find).bind fun found => ?_
  split
  · exact (Action.throws_logAs _ _ _).bind fun _ => Action.throws_pure _
  · exact Action.throws_pure _

end Registry

namespace Resolution

variable {w : World} {c : Context} {e : Failure}

/-- The launcher of a toolchain is not found because the look for it is refused. -/
theorem isRefusedLook_of_firstOf {source : RuntimeSource} {platform : Option String}
    {ts : List Toolchain} (h : firstOf w source platform ts = .error e) : e.IsRefusedLook := by
  rw [firstOf_eq] at h
  split at h
  · rename_i t _
    unfold runtimeIn hasLauncher FileTree.isFile at h
    cases hlook : w.tree.look w.cwd (javaExecutable t.home platform) with
    | ok node =>
      rw [hlook] at h
      cases h
    | error errno =>
      rw [hlook] at h
      cases h
      exact Files.isRefusedLook_of_look hlook
  · cases h

/-- The rules for toolchains fail for a version or for a look that is refused. -/
theorem fails_of_firstFound {rules : List Rule} (h : firstFound w c rules = .error e) :
    Numeral.IsTooLong e ∨ e.IsRefusedLook := by
  unfold firstFound at h
  induction rules with
  | nil => cases h
  | cons r rules ih =>
    rw [firstSome] at h
    split at h
    · rename_i hrule
      cases h
      -- Versions are compared by one of the rules only; all of them look for launchers.
      cases r with
      | explicitHome => cases hrule
      | managed version =>
        have hmanaged : Resolution.managed w c version = .error e := hrule
        unfold Resolution.managed at hmanaged
        split at hmanaged
        · rename_i hfind
          cases hmanaged
          exact Or.inl (Registry.isTooLong_of_find hfind)
        · exact Or.inr (isRefusedLook_of_firstOf hmanaged)
      | buildContext => exact Or.inr (isRefusedLook_of_firstOf hrule)
    · cases h
    · exact ih h

/-- A resolution fails with a numeral that is too long or with a refused look, whether a home is given or
not. -/
theorem throws_resolve (c : Context) :
    (resolve c chain).Throws fun e => Numeral.IsTooLong e ∨ e.IsRefusedLook := by
  intro w e w' h
  -- A given home is taken only after the search for toolchains has ended.
  cases hhome : c.java8Home with
  | none =>
    rw [runIn_resolve_without_home w c hhome] at h
    rcases hfound : firstFound w c toolchainRules with e' | _ | found
    · rw [hfound] at h
      cases h
      exact fails_of_firstFound hfound
    · rw [hfound] at h
      cases h
    · rw [hfound] at h
      cases h
  | some home =>
    rw [runIn_resolve_with_home w c hhome] at h
    cases hfound : firstFound w c toolchainRules with
    | error e' =>
      rw [hfound] at h
      cases h
      exact fails_of_firstFound hfound
    | ok found =>
      rw [hfound] at h
      cases h

end Resolution

/-! ## The stages of a run -/

/-- Validation fails with a fault of the run, or for a version. -/
theorem Validation.throws_validate (parameters : Parameters) (project : Project) (host : Host)
    (goal : Goal) :
    (validate parameters project host goal).Throws fun e => e.IsRun ∨ Numeral.IsTooLong e := by
  have hfork : (resolveFork parameters.fork host).Throws fun e =>
      e.IsRun ∨ Numeral.IsTooLong e := by
    refine Action.Throws.ite (Action.throws_pure _) ?_
    refine (Action.throws_ofExcept fun e h => Or.inr (Host.isTooLong_of_isAtLeast h)).bind fun _ => ?_
    exact (Action.throws_pure _).ite
      ((Action.throws_logAs _ _ _).bind fun _ => Action.throws_pure _)
  refine (Action.throws_ofExcept fun e h => ?_).bind fun _ => hfork.bind fun _ => ?_
  · unfold targetVersion at h
    split at h
    · cases h
    · cases h
      exact Or.inl (Failure.isRun_ofRun _)
  · exact (Action.throws_view _).bind fun _ => Action.throws_pure _

/-- What an entry point raises is turned into a fault of the run, unless it is an order to stop. -/
theorem Embedded.throws_run (point : EntryPoint) (config : BuildConfig) :
    (run point config).Throws fun e => e.IsRun ∨ e.fault.isExit = true := by
  refine (Action.throws_logAs _ _ _).bind fun _ => (Action.throws_view _).bind fun start => ?_
  refine Action.Throws.bind (Action.Throws.orFail (P := fun _ => True) ?_ ?_ ?_) fun _ => ?_
  · exact fun _ _ _ _ => trivial
  · exact fun e _ _ => Or.inl (Failure.isRun_because _ e)
  · intro e _ hexit
    exact Or.inr (by simpa using hexit)
  · exact (Action.throws_view _).bind fun _ => Action.throws_pure _

/-- Without a version of the tool there is a fault of the run. -/
theorem Artifact.isRun_of_detectVersion {w : World} {override : Option String} {e : Failure}
    (h : detectVersion w override = .error e) : e.IsRun := by
  unfold detectVersion at h
  split at h
  · cases h
  · split at h
    · cases h
    · cases h
      rfl

/-- A forked run fails with a fault of the run, or as its process fails for another reason than a refusal
of the system. -/
theorem Forked.fails_of_execute {q : Plan} {w w' : World} {e : Failure}
    (h : (execute (fun command => Process.run command none) q).runIn w = (.error e, w')) :
    e.IsRun ∨ w.ProcessFails e ∧ ¬ e.IsOs := by
  -- Once the process has ended, a bad exit code is the only failure.
  have hconclude : ∀ start outcome, (conclude q start outcome).Throws Failure.IsRun := by
    intro start outcome
    have hlines (level : Level) (text : String) : (logLines level text).Throws Failure.IsRun :=
      Action.Throws.forM (Action.throws_logAs logger level) _
    refine (Action.throws_view _).bind fun _ => (hlines _ _).bind fun _ => (hlines _ _).bind fun _ => ?_
    split
    · exact (Action.throws_throw (Failure.isRun_ofRun _)).bind fun _ => Action.throws_pure _
    · exact Action.throws_pure _
  rw [runIn_execute] at h
  rcases hrun : (Process.run q.command none).runIn (q.told w) with ⟨e' | outcome, v⟩
  · rw [hrun] at h
    dsimp only at h
    split at h
    · cases h
      exact Or.inl rfl
    · rename_i hos
      cases h
      have hfails := (Process.fails_of_run hrun).resolve_left hos
      exact Or.inr ⟨hfails.of_consumes (Plan.onlyRecorded_told q w).consumes, hos⟩
  · rw [hrun] at h
    exact Or.inl (hconclude _ outcome v e w' h)

namespace Runner

variable {parameters : Parameters} {goal : Goal} {r : Runner} {w w' : World} {e : Failure}

/-- What a run fails with. -/
inductive FailsWith (r : Runner) (w : World) (e : Failure) : Prop
  /-- A fault of the run. -/
  | run (h : e.IsRun)
  /-- A numeral that is too long. -/
  | tooLong (h : Numeral.IsTooLong e)
  /-- A refused look at the artifact, at a launcher, or at the file of toolchains. -/
  | look (h : e.IsRefusedLook)
  /-- A path that the system is never asked about. -/
  | null (h : e = .ofNull)
  /-- The encoding of a file of toolchains that is loaded for the run. -/
  | encoding (htoolchains : r.toolchains = none) (h : w.machine.libraries.codecs.Refuse e)
  /-- A process that ends without an outcome, not for a refusal of the system. -/
  | process (h : w.ProcessFails e) (hos : ¬ e.IsOs)
  /-- A copying of the jar by other means. -/
  | copy {copy : Coordinates → Path → Action Unit} {c : Coordinates} {destination : Path}
      {v v' : World} (hother : r.repositoryIn = .other copy)
      (h : (copy c destination).runIn v = (.error e, v'))
  /-- An order to stop. -/
  | stop (h : e.fault.isExit = true)

/-- What can go wrong later can go wrong from the start. -/
theorem FailsWith.of_consumes {v : World} (h : r.FailsWith v e) (hw : w.Consumes v) :
    r.FailsWith w e := by
  cases h with
  | run h => exact .run h
  | tooLong h => exact .tooLong h
  | look h => exact .look h
  | null h => exact .null h
  | encoding htoolchains h => exact .encoding htoolchains (hw.machine ▸ h)
  | process h hos => exact .process (h.of_consumes hw) hos
  | copy hother h => exact .copy hother h
  | stop h => exact .stop h

/-- What the acquisition fails with the runner fails with. -/
theorem FailsWith.of_acquirer (h : r.acquirer.FailsWith w e) : r.FailsWith w e := by
  cases h with
  | run h => exact .run h
  | null h => exact .null h
  | look h => exact .look h
  | process h hos => exact .process h hos
  | copy hother h => exact .copy hother h

/-- Loading the toolchains fails in one of the known ways. -/
theorem fails_of_loading (h : r.loading.runIn w = (.error e, w')) : r.FailsWith w e := by
  unfold loading at h
  cases htoolchains : r.toolchains with
  | some registry =>
    rw [htoolchains] at h
    cases h
  | none =>
    rw [htoolchains] at h
    dsimp only at h
    unfold toolchainsOf at h
    rw [Action.runIn_bind] at h
    rcases hload : (Registry.load r.settings.toolchain.file).runIn w with ⟨e' | registry, v⟩
    · rw [hload] at h
      cases h
      -- The toolchains were not loaded before, so that the file is read now.
      rcases Registry.fails_of_load hload with hrun | hlook | hrefuse
      · exact .run hrun
      · exact .look hlook
      · exact .encoding htoolchains hrefuse
    · rw [hload] at h
      dsimp only at h
      split at h
      · exact .tooLong (((Registry.throws_select _ _ _).bind fun _ => Action.throws_pure _) _ _ _ h)
      · cases h

/-- A forked run fails with one of these, if a copying of the jar by other means starts processes as the
machine does. -/
theorem fails_of_forked {config : BuildConfig} {registry : Registry} {version : String}
    {launch : Option Forked.Launch} {v : World}
    (h : Forked.Course config (r.backendOf w config registry version) v launch (.error e) w')
    (hw : w.Consumes v) (hcopy : ∀ copy, r.repositoryIn = .other copy →
      ∀ c destination, (copy c destination).Within World.Consumes) : r.FailsWith w e := by
  have hacquire : (r.acquirer.ensurePresent version).Within World.Consumes :=
    r.acquirer.within_ensurePresent World.covers_consumes version hcopy
  have hready : w.Consumes (Forked.readyWorld (r.backendOf w config registry version) v) :=
    (hw.trans (hacquire v)).trans (World.onlyRecorded_recorded _ _ _ _).consumes
  -- The course tells the stage that failed, and each stage has its own failures.
  cases h with
  | notAcquired hget =>
    have hfails := Acquirer.fails_of_ensurePresent (Prod.ext hget rfl)
    exact FailsWith.of_consumes (FailsWith.of_acquirer hfails) hw
  | notWritten _ hwrite =>
    exact (ClasspathFile.throws_write _ _ _ _ _ hwrite).elim .run .null
  | @notResolved _ u _ _ _ _ _ hsearch =>
    have hresolve := (runOn_javaCommand_backendOf hsearch).1
    cases hfailed : ((Resolution.resolve (r.runtimeContext w config.java8Home registry)
        Resolution.chain).runIn u).1 with
    | error e' =>
      rw [hfailed] at hresolve
      cases hresolve
      exact (Resolution.throws_resolve _ _ _ _ (Prod.ext hfailed rfl)).elim .tooLong .look
    | ok java =>
      rw [hfailed] at hresolve
      cases hresolve
  | @launched _ u _ _ _ _ _ _ hwrite hsearch hexecute =>
    have hsearched := (Resolution.within_resolve
      (r.runtimeContext w config.java8Home registry) Resolution.chain u).consumes
    rw [(runOn_javaCommand_backendOf hsearch).2] at hsearched
    rcases Forked.fails_of_execute hexecute with hrun | ⟨hprocess, hos⟩
    · exact .run hrun
    · have hwritten := (ClasspathFile.within_write_consumes _ _).of_runIn hwrite
      exact .process (hprocess.of_consumes ((hready.trans hwritten).trans hsearched)) hos

/-- So does every run. -/
theorem Course.failsWith {launch : Option Forked.Launch}
    (h : Course parameters goal r w launch (.error e) w')
    (hcopy : ∀ copy, r.repositoryIn = .other copy →
      ∀ c destination, (copy c destination).Within World.Consumes) : r.FailsWith w e := by
  have hvalidated {result : Except Failure BuildConfig} {x : World}
      (hvalid : (Validation.validate parameters r.project (r.hostIn w) goal).runIn w = (result, x)) :
      w.OnlyRecorded x := (Validation.within_validate _ _ _ _).of_runIn hvalid
  cases h with
  | invalid hvalid => exact (Validation.throws_validate _ _ _ _ _ _ _ hvalid).elim .run .tooLong
  | embedded _ _ hrun => exact (Embedded.throws_run _ _ _ _ _ hrun).elim .run .stop
  | notLoaded hvalid _ hload =>
    exact (fails_of_loading hload).of_consumes (hvalidated hvalid).consumes
  | unknownVersion _ _ _ hversion => exact .run (Artifact.isRun_of_detectVersion hversion)
  | forked hvalid _ hload _ hcourse =>
    exact fails_of_forked hcourse (((hvalidated hvalid).trans ((r.within_loading.of_runIn hload).trans
      (World.onlyRecorded_recorded _ _ _ _))).consumes) hcopy

/-- Toolchains in an encoding that is not known. -/
def strangeToolchains : List UInt8 :=
  Text.utf8 "<?xml version=\"1.0\" encoding=\"bogus\"?><toolchains/>"

/-- A machine with a file of them. -/
def strangeMachine : World where
  tree := { nodes := [(["toolchains.xml"], .file 1 false strangeToolchains)] }
  cwd := []
  environment := []

/-- A runner that loads its toolchains from there. -/
def loadingRunner : Runner where
  project := { baseDir := ⟨.root, ["p"]⟩ }
  settings := ⟨⟨"tool:main", .directory, ⟨.root, ["m"]⟩, "mvn", some "2.5.8"⟩,
    ⟨some ⟨.root, ["toolchains.xml"]⟩, none⟩, ⟨.info, "", none, false⟩⟩

/-- The failure to read the toolchains. -/
def unknownEncoding : Failure :=
  ⟨.foreign "LookupError" "unknown encoding: bogus", []⟩

set_option maxRecDepth 4000 in
/-- The toolchains of the example have an encoding that no codec knows. -/
theorem parse_strangeToolchains :
    Xml.parse strangeMachine.machine.libraries.codecs strangeToolchains = .error unknownEncoding := by
  rfl

theorem runIn_loading_strangeMachine :
    loadingRunner.loading.runIn strangeMachine = (.error unknownEncoding, strangeMachine) := by
  have hlocate : strangeMachine.tree.locate strangeMachine.cwd true ⟨.root, ["toolchains.xml"]⟩
      = .ok ["toolchains.xml"] :=
    FileTree.locate_in_root (by decide) (by decide) (by decide) (fun target h => nomatch h)
  have hstatus : strangeMachine.tree.status strangeMachine.cwd ⟨.root, ["toolchains.xml"]⟩
      = .ok (.file 1 false strangeToolchains) := by
    rw [FileTree.status, hlocate]
    rfl
  have hholds : strangeMachine.tree.holds strangeMachine.cwd ⟨.root, ["toolchains.xml"]⟩
      = .ok true := by
    rw [FileTree.holds, FileTree.look, hstatus]
    rfl
  have hread : strangeMachine.tree.read strangeMachine.cwd ⟨.root, ["toolchains.xml"]⟩
      = .ok strangeToolchains := FileTree.read_eq_ok_iff_status.mpr ⟨1, false, hstatus⟩
  -- The declaration names an encoding that is in no table.
  have hdocument : (Registry.readDocument ⟨.root, ["toolchains.xml"]⟩).runIn strangeMachine
      = (.error unknownEncoding, strangeMachine) := by
    rw [Registry.runIn_readDocument, hread, Files.refused, Except.bind, parse_strangeToolchains]
  show (Registry.load (some ⟨.root, ["toolchains.xml"]⟩) >>= _).runIn strangeMachine = _
  unfold Registry.load
  dsimp only
  rw [Action.runIn_bind, Action.runIn_bind, Files.runIn_holds, hholds]
  dsimp only [Files.refused]
  rw [if_pos rfl, Action.runIn_bind, Action.runIn_orFail, hdocument]
  rfl

/-- The run of the example fails with the encoding. -/
theorem runOn_execute_strangeMachine :
    ((execute { fork := true } .main).runOn loadingRunner strangeMachine).1.1
      = .error unknownEncoding := by
  have hvalid : ∃ config, (Validation.validate { fork := true } loadingRunner.project
      (loadingRunner.hostIn strangeMachine) .main).runIn strangeMachine
        = (.ok config, strangeMachine) ∧ config.fork = true := ⟨_, rfl, rfl⟩
  obtain ⟨config, hvalid, hfork⟩ := hvalid
  have hload : Runner.loading { loadingRunner with
      host := some (loadingRunner.hostIn strangeMachine) } = loadingRunner.loading := rfl
  rw [runOn_execute rfl, hvalid]
  dsimp only
  rw [ActionOn.runOn_bind, runOn_carrier_forked hfork, hload, runIn_loading_strangeMachine]

end Runner

end Downlevel
