import Downlevel.Proofs.Logging.Records
/-!
# Set-ups in a row

Of several set-ups the last one decides what becomes of messages: no handler of an earlier one is left,
and none is missing. The log file is the one that the full path of the setting leads to, which is not
the path itself if two dots follow a link; and a set-up that comes first may be refused where it is not
after others, which made directories.
-/
namespace Downlevel.Logging

variable {s : LoggingSettings} {w : World}

/-- **The last set-up decides what becomes of messages.** Whatever was set up before, after a set-up for
plain lines the error stream gets one line for each message that is not below the level, and so does the
file that the full path of the log file leads to, unless a surrogate stands in the message: then the error
stream gets a report of that after its line. The file is the log file itself if its path has no two dots.
A message below the level changes nothing, and no other file gets anything. The log that the set-up leaves
is the one that it leaves alone, if it ends well alone. -/
theorem last_setUp_decides {earlier : List (Option LoggingSettings)} {given : Option LoggingSettings}
    {w₀ w₁ w : World} (hearlier : (earlier.forM setUpFrom).runIn w₀ = (.ok ⟨⟩, w₁))
    (hlast : (setUpFrom given).runIn w₁ = (.ok ⟨⟩, w))
    (hs : given.or (w.settings.map Settings.logging) = some s) (hrich : s.rich = false)
    (hfits : Log.Fits (patternOf s)) :
    (∀ rs v, Later s w rs v →
      (∃ text, text? s w.machine (emitted s rs) = some text ∧
        v.errorStream = w.errorStream ++ text) ∧
      (∀ p ∈ s.file, ∃ before, w.tree.read w.cwd (fullPath w.cwd p) = .ok before ∧
        v.tree.read v.cwd (fullPath w.cwd p) = .ok (before ++ (emitted s rs).flatMap filed)) ∧
      (∀ logger level message, level.number < s.level.number →
        v.recordedPoints logger level message = v) ∧
      ∀ other, (∀ p ∈ s.file, ¬ SameFile v other (fullPath w.cwd p)) →
        ∀ logger level message,
          (v.recordedPoints logger level message).tree.read v.cwd other = v.tree.read v.cwd other) ∧
    (∀ (r : Log.Record) bytes, r.fileLine? = some bytes ↔
      (∀ n ∈ r.message, Text.isSurrogate n = false) ∧
        bytes = Text.utf8 r.head ++ r.message.flatMap Text.encodePoint ++ [10]) ∧
    (∀ p ∈ s.file, InPlace w → ".." ∉ p.names →
      w.tree.locate w.cwd true (fullPath w.cwd p) = w.tree.locate w.cwd true p) ∧
    ∀ a, (setUpFrom given).runIn w₀ = (.ok ⟨⟩, a) →
      given.or (a.settings.map Settings.logging) = some s → SameLog a w := by
  obtain ⟨id?, hsetup⟩ := runIn_setUpFrom hlast hs
  refine ⟨?_, fun r bytes => Log.Record.fileLine?_eq_some_iff, ?_, ?_⟩
  · intro rs v hlater
    have hreceived := hlater.received hsetup hrich hfits
    have hlevel : v.log.level = s.level := by rw [hreceived.log]
    refine ⟨hreceived.errorStream, fun p => hreceived.read, ?_, fun other => hreceived.read_other⟩
    intro logger level message hlt
    exact recorded_of_lt hlevel hlt logger message
  · intro p hp hw hdots
    -- The log file is open, so its full path is none that is refused as a whole.
    have hfile := hsetup.file
    rw [Option.mem_def.mp hp] at hfile
    cases hfile with
    | some hleads =>
      obtain ⟨x, bytes, hstatus⟩ := hleads
      obtain ⟨place, hplace, -⟩ := FileTree.status_eq_ok.mp hstatus
      exact locate_fullPath hw hdots (FileTree.locate_eq_ok.mp hplace).1
  · intro a halone hs'
    obtain ⟨id?', hsetup'⟩ := runIn_setUpFrom halone hs'
    -- Both logs were set up in worlds with the links of the first one.
    have hkept : KeepsLinks w₀ a := (within_setUpFrom_keepsLinks given).of_runIn halone
    have hkept₁ : KeepsLinks w₀ w₁ :=
      (Action.Within.forM within_setUpFrom_keepsLinks earlier).of_runIn hearlier
    have hkept₂ : KeepsLinks w₁ w := (within_setUpFrom_keepsLinks given).of_runIn hlast
    refine hsetup'.sameLog hsetup (hkept.1.symm.trans (hkept₁.1.trans hkept₂.1)) ?_
    rw [hkept.2, hkept₂.2, hkept₁.2]

/-! ## A display, and then plain lines -/

/-- Settings to watch all messages on a display, with a file. -/
def watchedSettings : LoggingSettings :=
  ⟨.debug, "%(message)s", some ⟨.root, ["old.log"]⟩, true⟩

/-- Settings for plain lines of warnings, with another file. -/
def warningSettings : LoggingSettings :=
  ⟨.warning, "[%(name)s] %(message)s", some ⟨.root, ["run.log"]⟩, false⟩

/-- A machine without files. -/
def vacantMachine : World where
  tree := .empty
  cwd := []
  environment := []

/-- The machine after the first set-up. -/
def watchedMachine : World :=
  { vacantMachine with
    tree := vacantMachine.tree.put ["old.log"] (.file 1 false [])
    log := ⟨.debug, handlersOf watchedSettings (some 1)⟩ }

/-- The machine after the second one. -/
def warningMachine : World :=
  { watchedMachine with
    tree := watchedMachine.tree.put ["run.log"] (.file 2 false [])
    log := ⟨.warning, handlersOf warningSettings (some 2)⟩ }

/-- A file in the root directory is opened, if nothing stands there. -/
theorem runIn_setUp_in_root {n : String} (hn : n ≠ "." ∧ n ≠ "..")
    (hfits : FileTree.pathRefusal? ⟨.root, [n]⟩ = none) (hopen : w.tree.refusal? [] n = none)
    (haccepted : Log.accepted (patternOf s).toList = true) (hfile : s.file = some ⟨.root, [n]⟩)
    (hvacant : w.tree.find? [n] = none) :
    let id := ({ w with log := ⟨s.level, handlersOf s none⟩ } : World).freshId
    (setUp s).runIn w = (.ok ⟨⟩, { w with
      tree := w.tree.put [n] (.file id false [])
      log := ⟨s.level, handlersOf s (some id)⟩ }) := by
  have hparent : w.tree.locate w.cwd false (Path.parent ⟨.root, [n]⟩) = .ok [] := by
    have hroot : Path.parent ⟨.root, [n]⟩ = ⟨.root, []⟩ := rfl
    rw [hroot, FileTree.locate_of_fits (by decide)]
    exact FileTree.walk.eq_1 ..
  have hfull : fullPath w.cwd ⟨.root, [n]⟩ = ⟨.root, [n]⟩ := by
    have hnames : ".." ∉ [n] := by simpa using hn.2.symm
    rw [fullPath, Path.under_of_isAbsolute rfl, Path.normalized_of_not_mem hnames]
  -- The root is there, so that no directory is made.
  refine runIn_setUp_of_made haccepted hfile
    (Files.runIn_makeDirectoriesOf_of_directory hparent rfl) ?_
  show w.tree.openForWriting w.cwd _ false (fullPath w.cwd ⟨.root, [n]⟩) = _
  rw [hfull]
  exact FileTree.openForWriting_of_vacant
    (FileTree.locate_in_root hfits hopen hn (FileTree.ne_link_of_vacant hvacant)) hvacant _ _

/-- A file in the root directory of the machine is what its name leads to. -/
theorem status_warningMachine {n : String} {id : Nat} {x : Bool} {bytes : List UInt8}
    (hn : n ≠ "." ∧ n ≠ "..") (hfits : FileTree.pathRefusal? ⟨.root, [n]⟩ = none)
    (hopen : warningMachine.tree.refusal? [] n = none)
    (hfile : warningMachine.tree.find? [n] = some (.file id x bytes)) :
    warningMachine.tree.status [] ⟨.root, [n]⟩ = .ok (.file id x bytes) :=
  FileTree.status_eq_ok.mpr
    ⟨[n], FileTree.locate_in_root hfits hopen hn (FileTree.ne_link_of_file hfile), hfile⟩

/-- Messages go to the error stream and to the file of the second set-up, from warnings on. -/
theorem last_setUp_decides_after_display :
    ([some watchedSettings].forM setUpFrom).runIn vacantMachine = (.ok ⟨⟩, watchedMachine) ∧
    (setUpFrom (some warningSettings)).runIn watchedMachine = (.ok ⟨⟩, warningMachine) ∧
    Log.Fits (patternOf warningSettings) ∧
    let v := (warningMachine.recorded "retrolambda_runner" .info "low").recorded "retrolambda_runner"
      .error "lost"
    v.errorStream = "[retrolambda_runner] lost\n" ∧
      v.tree.read [] ⟨.root, ["old.log"]⟩ = .ok [] := by
  have hfirst : (setUp watchedSettings).runIn vacantMachine = (.ok ⟨⟩, watchedMachine) :=
    runIn_setUp_in_root (by decide) (by decide) rfl (by decide +kernel) rfl rfl
  have hlast : (setUpFrom (some warningSettings)).runIn watchedMachine = (.ok ⟨⟩, warningMachine) :=
    runIn_setUp_in_root (by decide) (by decide) (by decide) (by decide +kernel) rfl (by decide)
  have hearlier : ([some watchedSettings].forM setUpFrom).runIn vacantMachine
      = (.ok ⟨⟩, watchedMachine) := Action.runIn_bind_ok hfirst _
  have hfits : Log.Fits (patternOf warningSettings) := Log.fits_of_isKnown (by decide +kernel)
  obtain ⟨hlater, -⟩ := last_setUp_decides hearlier hlast rfl rfl hfits
  refine ⟨hearlier, hlast, hfits, ?_⟩
  obtain ⟨-, -, hlow, hother⟩ := hlater _ _ .start
  obtain ⟨⟨text, htext, herror⟩, -⟩ :=
    hlater _ _ (Later.start.message "retrolambda_runner" .error (Text.codePoints "lost"))
  -- A message below the level leaves the machine as it is.
  have hquiet : warningMachine.recorded "retrolambda_runner" .info "low" = warningMachine :=
    hlow "retrolambda_runner" .info _ (by decide)
  rw [hquiet]
  constructor
  · have hline : Log.line? (patternOf warningSettings) (warningMachine.record "retrolambda_runner" .error
        (Text.codePoints "lost")) = some (Text.codePoints "[retrolambda_runner] lost") := by
      decide +kernel
    obtain ⟨bytes, hbytes, -⟩ := Log.Record.exists_fileLine (r := warningMachine.record
      "retrolambda_runner" .error (Text.codePoints "lost")) rfl
    have hline : text? warningSettings warningMachine.machine (emitted warningSettings
        [warningMachine.record "retrolambda_runner" .error (Text.codePoints "lost")])
        = some "[retrolambda_runner] lost\n" := by
      have hpiece : streamed? warningSettings warningMachine.machine (warningMachine.record
          "retrolambda_runner" .error (Text.codePoints "lost")) = some "[retrolambda_runner] lost\n" := by
        rw [streamed?, hline, Option.map_some, Text.printed_codePoints,
          if_neg fun h => Option.some_ne_none bytes (hbytes.symm.trans h.2)]
        rfl
      have hnone : text? warningSettings warningMachine.machine [] = some "" := rfl
      exact text?_concat hnone hpiece
    cases Option.some.inj (hline.symm.trans htext)
    exact herror
  · have hold := status_warningMachine (n := "old.log") (by decide) (by decide) (by decide) rfl
    have hrun := status_warningMachine (n := "run.log") (by decide) (by decide) (by decide) rfl
    refine (hother ⟨.root, ["old.log"]⟩ ?_ "retrolambda_runner" .error _).trans ?_
    · -- The two files have different identities.
      rintro _ ⟨⟩ ⟨id, ⟨x, bytes, hfirst⟩, y, bytes', hsecond⟩
      cases hold.symm.trans hfirst
      cases hrun.symm.trans hsecond
    · exact FileTree.read_eq_ok_iff_status.mpr ⟨1, false, hold⟩

/-! ## Links on the way to a log file -/

/-- Settings for plain lines, kept in a file. -/
def plainSettings (p : Path) : LoggingSettings :=
  ⟨.info, "%(message)s", some p, false⟩

theorem accepted_plainSettings (p : Path) :
    Log.accepted (patternOf (plainSettings p)).toList = true := by
  show Log.accepted "%(message)s".toList = true
  decide +kernel

/-- A log file in the directory above the one that a link leads to. -/
def linkedFile : Path :=
  ⟨.root, ["work", "link", "..", "app.log"]⟩

/-- A machine with a link to a directory elsewhere. -/
def linkedMachine : World where
  tree := { nodes := [(["work"], .directory), (["work", "link"], .link "/data/logs"),
    (["data"], .directory), (["data", "logs"], .directory)] }
  cwd := ["work"]
  environment := []

/-- The machine after a set-up with that log file. -/
def writtenMachine : World :=
  { linkedMachine with
    tree := linkedMachine.tree.put ["work", "app.log"] (.file 1 false [])
    log := ⟨.info, handlersOf (plainSettings linkedFile) (some 1)⟩ }

/-- The way over the link, and back over two dots, in a tree where nothing is closed. -/
theorem walk_over_link {t : FileTree} (hclosed : t.closed = [])
    (hwork : t.find? ["work"] = some .directory)
    (hlink : t.find? ["work", "link"] = some (.link "/data/logs"))
    (hdata : t.find? ["data"] = some .directory) (hlogs : t.find? ["data", "logs"] = some .directory)
    (f : Bool) (rest : List String) :
    t.walk f FileTree.linkLimit [] (["work", "link", ".."] ++ rest) = t.walk f 39 ["data"] rest := by
  have hsame : t.refusal? = FileTree.empty.refusal? := FileTree.refusal?_congr hclosed
  have hfirst : t.walk f FileTree.linkLimit [] (["work"] ++ "link" :: ".." :: rest)
      = t.walk f FileTree.linkLimit ["work"] ("link" :: ".." :: rest) := by
    apply FileTree.walk_directories _ (by rw [FileTree.Open, hsame]; decide) (by decide)
    intro k hk
    rw [Nat.lt_one_iff.mp hk]
    exact hwork
  have hsteps : FileTree.steps "/data/logs" = ["data", "logs"] := by decide +kernel
  have hslash : "/data/logs".startsWith "/" = true := by decide +kernel
  have hlast : t.walk f 39 [] (["data", "logs"] ++ ".." :: rest)
      = t.walk f 39 ["data", "logs"] (".." :: rest) := by
    apply FileTree.walk_directories _ (by rw [FileTree.Open, hsame]; decide) (by decide)
    intro k hk
    obtain rfl | rfl := Nat.le_one_iff_eq_zero_or_eq_one.mp (Nat.le_of_lt_succ hk)
    · exact hdata
    · exact hlogs
  -- The link counts as one, and its target is an absolute path.
  refine hfirst.trans ?_
  rw [show FileTree.linkLimit = 39 + 1 from rfl,
    FileTree.walk_link (by rw [hsame]; decide) (by decide) hlink (Or.inr (List.cons_ne_nil _ _)),
    if_pos hslash, hsteps, hlast, FileTree.walk_dots (by rw [hsame]; decide)]
  rfl

theorem runIn_setUp_linked :
    (setUpFrom (some (plainSettings linkedFile))).runIn linkedMachine = (.ok ⟨⟩, writtenMachine) := by
  have hparent : linkedMachine.tree.locate linkedMachine.cwd false linkedFile.parent = .ok ["data"] := by
    rw [FileTree.locate_of_fits (by decide)]
    refine (walk_over_link rfl rfl (by decide) (by decide) (by decide) false []).trans ?_
    rw [FileTree.walk]
  have hplace : linkedMachine.tree.locate linkedMachine.cwd true ⟨.root, ["work", "app.log"]⟩
      = .ok ["work", "app.log"] :=
    FileTree.locate_of_directories (by decide) (by decide) (by decide) (by decide)
      (FileTree.ne_link_of_vacant (by decide))
  exact runIn_setUp_of_made (accepted_plainSettings _) rfl
    (Files.runIn_makeDirectoriesOf_of_directory hparent (by decide))
    (FileTree.openForWriting_of_vacant hplace (by decide) _ _)

/-- No message comes into the file that the path of the log file leads to. -/
theorem read_linkedFile :
    (writtenMachine.recorded "retrolambda_runner" .info "hello").tree.read ["work"] linkedFile
      = .error .noEntry := by
  have hplace : writtenMachine.tree.locate ["work"] true linkedFile = .ok ["data", "app.log"] := by
    rw [FileTree.locate_of_fits (by decide)]
    refine (walk_over_link rfl (by decide) (by decide) (by decide) (by decide) true
      ["app.log"]).trans ?_
    exact FileTree.walk_last (by decide) (by decide) (by decide) rfl
      fun _ => FileTree.ne_link_of_vacant (by decide)
  have hstatus : writtenMachine.tree.status ["work"] linkedFile = .error .noEntry := by
    rw [FileTree.status, hplace]
    rfl
  -- The path of the settings leads to no file, so that nothing is written there.
  have hnowhere : ∀ id ∈ some 1, ¬ writtenMachine.LeadsTo linkedFile id := by
    rintro id - ⟨x, bytes, hfile⟩
    cases hstatus.symm.trans hfile
  have hread := read_recorded (s := plainSettings linkedFile) (v := writtenMachine) rfl (p := linkedFile)
    hnowhere "retrolambda_runner" .info (Text.codePoints "hello")
  refine Eq.trans hread ?_
  show writtenMachine.tree.read ["work"] linkedFile = _
  rw [FileTree.read, hstatus]

/-- No file gets a message with a surrogate. -/
theorem recordedPoints_surrogate :
    (writtenMachine.recordedPoints "retrolambda_runner" .info [0xd800]).tree = writtenMachine.tree := by
  have hfits : Log.Fits (patternOf (plainSettings linkedFile)) := Log.fits_of_isKnown (by decide +kernel)
  obtain ⟨line, hline⟩ := hfits.exists_line (writtenMachine.record "retrolambda_runner" .info [0xd800])
  have hfiled : filed (writtenMachine.record "retrolambda_runner" .info [0xd800]) = [] := by
    unfold filed
    cases hbytes : (writtenMachine.record "retrolambda_runner" .info [0xd800]).fileLine? with
    | none => rfl
    | some bytes =>
      have hnone := (Log.Record.fileLine?_eq_some_iff.mp hbytes).1 0xd800 List.mem_cons_self
      cases hnone
  rw [recorded_of_le (s := plainSettings linkedFile) rfl rfl (by decide) hline, hfiled]
  exact FileTree.append_nil _ _

/-! ## Links that lead to directories once these are made -/

/-- A machine with a link to a directory that is not there. -/
def danglingMachine : World where
  tree := { nodes := [(["link"], .link "/made")] }
  cwd := []
  environment := []

/-- Settings with a file in the directory that is not there. -/
def madeSettings : LoggingSettings :=
  plainSettings ⟨.root, ["made", "a.log"]⟩

/-- Settings with a file behind the link. -/
def danglingSettings : LoggingSettings :=
  plainSettings ⟨.root, ["link", "b.log"]⟩

/-- The machine after a set-up that made the directory. -/
def madeMachine : World :=
  { danglingMachine with
    tree := (danglingMachine.tree.put ["made"] .directory).put ["made", "a.log"] (.file 1 false [])
    log := ⟨.info, handlersOf madeSettings (some 1)⟩ }

/-- The machine after a set-up with the link as well. -/
def followedMachine : World :=
  { madeMachine with
    tree := madeMachine.tree.put ["made", "b.log"] (.file 2 false [])
    log := ⟨.info, handlersOf danglingSettings (some 2)⟩ }

/-- The way over that link, in a tree where nothing is closed. -/
theorem walk_over_dangling {t : FileTree} (hclosed : t.closed = [])
    (hlink : t.find? ["link"] = some (.link "/made")) (rest : List String) :
    t.walk true FileTree.linkLimit [] ("link" :: rest) = t.walk true 39 [] ("made" :: rest) := by
  have hsame : t.refusal? = FileTree.empty.refusal? := FileTree.refusal?_congr hclosed
  have hsteps : FileTree.steps "/made" = ["made"] := by decide +kernel
  have hslash : "/made".startsWith "/" = true := by decide +kernel
  rw [show FileTree.linkLimit = 39 + 1 from rfl,
    FileTree.walk_link (by rw [hsame]; decide) (by decide) hlink (Or.inl rfl), if_pos hslash, hsteps]
  rfl

theorem locate_link {t : FileTree} (hclosed : t.closed = []) :
    t.locate [] false ⟨.root, ["link"]⟩ = .ok ["link"] := by
  have hsame : t.refusal? = FileTree.empty.refusal? := FileTree.refusal?_congr hclosed
  rw [FileTree.locate_of_fits (by decide)]
  exact FileTree.walk_last (by rw [hsame]; decide) (by decide) (by decide) rfl Bool.noConfusion

/-- Without the directory the set-up is refused, and leaves the handler for the error stream. -/
theorem runIn_setUp_dangling : ∃ e, (setUpFrom (some danglingSettings)).runIn danglingMachine
    = (.error e, { danglingMachine with log := ⟨.info, handlersOf danglingSettings none⟩ }) := by
  have hplace : danglingMachine.tree.locate [] true ⟨.root, ["link"]⟩ = .ok ["made"] := by
    rw [FileTree.locate_of_fits (by decide)]
    refine (walk_over_dangling rfl rfl []).trans ?_
    exact FileTree.walk_last rfl (by decide) (by decide) rfl fun _ => FileTree.ne_link_of_vacant rfl
  have hno : danglingMachine.tree.isDirectory [] ⟨.root, ["link"]⟩ = .ok false := by
    rw [FileTree.isDirectory, FileTree.look, FileTree.status, hplace]
    rfl
  have hmade := Files.runIn_makeDirectoriesOf_of_taken (p := ⟨.root, ["link"]⟩)
    (w := { danglingMachine with log := ⟨.info, handlersOf danglingSettings none⟩ }) (locate_link rfl)
    rfl
  rw [Files.runIn_unlessDirectory (by exact hno), if_neg Bool.false_ne_true] at hmade
  exact ⟨_, runIn_setUp_of_refused (accepted_plainSettings _) rfl hmade⟩

theorem runIn_setUp_made :
    (setUpFrom (some madeSettings)).runIn danglingMachine = (.ok ⟨⟩, madeMachine) := by
  have hparent : danglingMachine.tree.locate [] false ⟨.root, ["made"]⟩ = .ok ["made"] := by
    rw [FileTree.locate_of_fits (by decide)]
    exact FileTree.walk_last rfl (by decide) (by decide) rfl Bool.noConfusion
  have hplace : (danglingMachine.tree.put ["made"] .directory).locate [] true ⟨.root, ["made", "a.log"]⟩
      = .ok ["made", "a.log"] :=
    FileTree.locate_of_directories (by decide) (by decide) (by decide) (by decide)
      (FileTree.ne_link_of_vacant (by decide))
  exact runIn_setUp_of_made (accepted_plainSettings _) rfl
    (Files.runIn_makeDirectoriesOf_of_vacant hparent rfl)
    (FileTree.openForWriting_of_vacant hplace (by decide) _ _)

theorem runIn_setUp_followed :
    (setUpFrom (some danglingSettings)).runIn madeMachine = (.ok ⟨⟩, followedMachine) := by
  have hway (rest : List String) (hfits : FileTree.pathRefusal? ⟨.root, "link" :: rest⟩ = none) :
      madeMachine.tree.locate [] true ⟨.root, "link" :: rest⟩
        = madeMachine.tree.walk true 39 ["made"] rest := by
    rw [FileTree.locate_of_fits hfits]
    refine (walk_over_dangling rfl (by decide) rest).trans ?_
    exact FileTree.walk_directories ["made"] (by decide) (by decide) (by decide) rest
  -- The link leads to the directory that the first setup made.
  have hthere : madeMachine.tree.isDirectory [] ⟨.root, ["link"]⟩ = .ok true :=
    FileTree.isDirectory_iff.mpr
      ⟨["made"], by rw [hway [] (by decide), FileTree.walk], by decide⟩
  have hmade := Files.runIn_makeDirectoriesOf_of_taken (p := ⟨.root, ["link"]⟩)
    (w := { madeMachine with log := ⟨.info, handlersOf danglingSettings none⟩ }) (locate_link rfl) rfl
  rw [Files.runIn_unlessDirectory (by exact hthere), if_pos rfl] at hmade
  have hplace : madeMachine.tree.locate [] true ⟨.root, ["link", "b.log"]⟩ = .ok ["made", "b.log"] := by
    rw [hway ["b.log"] (by decide)]
    exact FileTree.walk_last (by decide) (by decide) (by decide) rfl
      fun _ => FileTree.ne_link_of_vacant (by decide)
  exact runIn_setUp_of_made (s := danglingSettings) (w := madeMachine) (accepted_plainSettings _) rfl
    hmade (FileTree.openForWriting_of_vacant hplace (by decide) _ _)

/-- What does not hold of the last of several set-ups. The file that the path of its log file leads to
gets no message if two dots follow a link; a pattern whose field is one of records may have no line; no
file gets a message with a surrogate; and the set-up may be refused alone, so that it leaves another log
then. -/
theorem last_setUp_decides_otherwise :
    ((setUpFrom (some (plainSettings linkedFile))).runIn linkedMachine = (.ok ⟨⟩, writtenMachine) ∧
      (writtenMachine.recorded "retrolambda_runner" .info "hello").tree.read ["work"] linkedFile
        = .error .noEntry) ∧
    ((Log.blankRecord.field? "name").isSome = true ∧ Log.line? "%(name)d" Log.blankRecord = none) ∧
    (writtenMachine.recordedPoints "retrolambda_runner" .info [0xd800]).tree = writtenMachine.tree ∧
    ∃ e a, (setUpFrom (some danglingSettings)).runIn danglingMachine = (.error e, a) ∧
      ([some madeSettings].forM setUpFrom).runIn danglingMachine = (.ok ⟨⟩, madeMachine) ∧
      (setUpFrom (some danglingSettings)).runIn madeMachine = (.ok ⟨⟩, followedMachine) ∧
      ¬ SameLog a followedMachine := by
  refine ⟨⟨runIn_setUp_linked, read_linkedFile⟩, ⟨rfl, by decide +kernel⟩, recordedPoints_surrogate, ?_⟩
  obtain ⟨e, halone⟩ := runIn_setUp_dangling
  refine ⟨e, _, halone, Action.runIn_bind_ok runIn_setUp_made _, runIn_setUp_followed, ?_⟩
  intro hsame
  exact absurd hsame.handlers.length_eq (by decide)

end Downlevel.Logging
