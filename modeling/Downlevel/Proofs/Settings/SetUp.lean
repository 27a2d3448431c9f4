import Downlevel.Logging
import Downlevel.Proofs.Settings.Precedence
import Downlevel.Proofs.World.Copying
import Downlevel.Proofs.World.Idle
/-!
# What loading settings changes

Loading settings only records messages, and the settings of the program are kept. Setting up the log
changes the log, and the file tree by the log file and the directories on the way to it. Nothing else
of the world changes before a command is carried out.
-/
namespace Downlevel

/-! ## Before a command -/

/-- Between two worlds nothing happened but that settings were loaded and the log was set up. -/
def World.OnlySetUp (w w' : World) : Prop :=
  w' = { w with
    tree := w'.tree
    log := w'.log
    settings := w'.settings
    errorStream := w'.errorStream
    journal := w'.journal }

namespace World

instance : Std.Refl World.OnlySetUp :=
  ⟨fun _ => rfl⟩

instance : IsTrans World World.OnlySetUp where
  trans := by
    intro u v w h h'
    unfold World.OnlySetUp at *
    rw [h', h]

/-- Making directories is part of a setup. -/
theorem AddsDirectories.onlySetUp (w w' : World) (h : w.AddsDirectories w') : w.OnlySetUp w' := by
  have hrest := h.onlyTree
  unfold OnlyTree at hrest
  rw [h.breaks] at hrest
  rw [hrest]
  rfl

/-- Telling something is part of a setup. -/
theorem OnlyRecorded.onlySetUp (w w' : World) (h : w.OnlyRecorded w') : w.OnlySetUp w' := by
  rw [h.rest]
  rfl

/-- A setup starts no process and calls no function. -/
theorem OnlySetUp.idle (w w' : World) (h : w.OnlySetUp w') : w.Idle w' := by
  rw [h]
  rfl

end World

/-! ## Settings -/

namespace SettingsSection

variable {α : Type}

theorem within_reading (s : SettingsSection α) (given : Fields) :
    (s.reading given).Within World.OnlyRecorded := by
  unfold reading
  refine Action.Within.ite (Variables.within_read.bind fun _ => ?_) (Action.within_pure _)
  exact (Action.within_view _).bind fun _ => Action.within_pure _

theorem within_load (s : SettingsSection α) (given : Fields) :
    (s.load given).Within World.OnlyRecorded :=
  (s.within_reading given).bind fun _ => Action.within_ofExcept _

end SettingsSection

theorem SectionVariables.within_read : read.Within World.OnlyRecorded := by
  refine Variables.within_read.bind fun vs => ?_
  exact (Action.within_view _).bind fun _ => Action.within_ofExcept _

namespace Settings

theorem within_part {α : Type} (s : SettingsSection α) (d : Option Data) :
    (part s d).Within World.OnlyRecorded := by
  unfold part
  split
  · exact (s.within_load []).bind fun _ => Action.within_pure _
  · refine (s.within_reading _).bind fun r => ?_
    split
    · exact Action.within_throw _
    · exact Action.within_pure _
  · exact Action.within_pure _

theorem within_givenOr {α : Type} (s : SettingsSection α) (given : Option α) (d : Option Data) :
    (givenOr s given d).Within World.OnlyRecorded := by
  unfold givenOr
  split
  · exact Action.within_pure _
  · exact within_part s d

theorem within_ofSections (runner : Option RunnerSettings) (toolchain : Option ToolchainSettings)
    (logging : Option LoggingSettings) :
    (ofSections runner toolchain logging).Within World.OnlyRecorded := by
  refine SectionVariables.within_read.bind fun parts => ?_
  refine (within_givenOr _ _ _).bind fun _ => (within_givenOr _ _ _).bind fun _ => ?_
  exact (within_givenOr _ _ _).bind fun _ => Action.within_ofExcept _

theorem within_ofFile (p : Path) : (ofFile p).Within World.OnlyRecorded := by
  have hentries : (Configuration.readEntries p).Within World.OnlyRecorded := by
    refine (Configuration.within_readEntries p).mono fun w w' hsame => ?_
    rw [show w' = w from hsame]
    exact .refl w
  refine Action.Within.bind (hentries.bind fun _ => Action.within_pure _) fun read => ?_
  refine (SettingsSection.within_load _ _).bind fun _ => ?_
  refine (SettingsSection.within_load _ _).bind fun _ => ?_
  exact (SettingsSection.within_load _ _).bind fun _ => within_ofSections _ _ _

/-- Without any data for whole sections the settings are what the variables of their fields say. -/
theorem runIn_ofVariables {w : World} {runner : RunnerSettings} {toolchain : ToolchainSettings}
    {logging : LoggingSettings}
    (hsections : SectionVariables.read.runIn w = (.ok [none, none, none], w))
    (hrunner : (RunnerSettings.inSettings.load []).runIn w = (.ok runner, w))
    (htoolchain : (ToolchainSettings.inSettings.load []).runIn w = (.ok toolchain, w))
    (hlogging : (LoggingSettings.inSettings.load []).runIn w = (.ok logging, w)) :
    ofVariables.runIn w = (.ok ⟨runner, toolchain, logging⟩, w) := by
  have hpart {α : Type} {s : SettingsSection α} {x : α} (h : (s.load []).runIn w = (.ok x, w)) :
      (givenOr s none none).runIn w = (.ok (.value x), w) := by
    unfold givenOr part
    exact Action.runIn_bind_ok h _
  unfold ofVariables ofSections
  rw [Action.runIn_bind_ok hsections]
  refine (Action.runIn_bind_ok (hpart hrunner) _).trans ?_
  refine (Action.runIn_bind_ok (hpart htoolchain) _).trans ?_
  exact Action.runIn_bind_ok (hpart hlogging) _

/-- The settings of the program are loaded by messages alone, and kept. -/
theorem within_current_of {R : World → World → Prop} [Std.Refl R] [IsTrans World R]
    (hrecorded : ∀ w w', World.OnlyRecorded w w' → R w w')
    (hkept : ∀ (w : World) s, R w { w with settings := some s }) : current.Within R := by
  refine Action.within_get_bind fun w => ?_
  have hload : ofInstallation.Within R := by
    refine Action.Within.mono ?_ hrecorded
    refine (Action.within_view _).bind fun file => (Files.within_holds file).bind fun _ => ?_
    exact (within_ofFile _).ite (within_ofSections none none none)
  split
  · exact Action.within_pure _ w
  · refine (hload.bind fun s => Action.Within.bind ?_ fun _ => Action.within_pure _) w
    exact fun w => hkept w s

theorem within_current : current.Within World.OnlySetUp :=
  within_current_of World.OnlyRecorded.onlySetUp fun _ _ => rfl

/-- The settings that were loaded are those of the program from then on. -/
theorem settings_of_current {s : Settings} {w w' : World} (h : current.runIn w = (.ok s, w')) :
    w'.settings = some s := by
  unfold current at h
  rw [Action.runIn_bind_ok (Action.runIn_get w)] at h
  cases hsettings : w.settings with
  | some s' =>
    rw [hsettings] at h
    cases h
    exact hsettings
  | none =>
    rw [hsettings] at h
    obtain ⟨s', v, -, hkept⟩ := Action.runIn_bind_eq_ok h
    cases hkept
    rfl

end Settings

/-! ## The log -/

namespace Logging

section Within

variable {R : World → World → Prop} [Std.Refl R]

theorem within_watcher (s : LoggingSettings) : (watcher s).Within R := by
  unfold watcher
  exact (Action.within_pure _).ite ((Action.within_pure _).ite (Action.within_fail _))

variable [IsTrans World R]

theorem within_openFile
    (hmade : ∀ w w', World.AddsDirectories w w' → R w w')
    (hopened : ∀ (w : World) p id tree, w.tree.openForWriting w.cwd w.freshId false p = .ok (id, tree) →
      R w { w with tree })
    (p : Path) (level : Level) : (openFile p level).Within R := by
  have hopen (p : Path) : (Files.openForAppending p).Within R := by
    refine Action.within_get_bind fun w => ?_
    cases hopen : w.tree.openForWriting w.cwd w.freshId false p with
    | error e => exact Std.Refl.refl w
    | ok opened => exact hopened w p opened.1 opened.2 hopen
  refine ((Files.within_makeDirectoriesOf_adds _).mono hmade).bind fun _ => ?_
  exact (Action.within_view _).bind fun _ => (hopen _).bind fun _ => Action.within_pure _

/-- To set up the log is to change the log, to make directories, and to open a file. -/
theorem within_setUp_of (hlog : ∀ (w : World) log, R w { w with log })
    (hmade : ∀ w w', World.AddsDirectories w w' → R w w')
    (hopened : ∀ (w : World) p id tree, w.tree.openForWriting w.cwd w.freshId false p = .ok (id, tree) →
      R w { w with tree })
    (s : LoggingSettings) : (setUp s).Within R := by
  have hadd (h : Log.Handler) : (add h).Within R := fun w => hlog w _
  unfold setUp
  refine Action.Within.bind (fun w => hlog w _) fun _ => ?_
  refine (within_watcher s).bind fun watching => (hadd watching).bind fun _ => ?_
  split
  · exact (within_openFile hmade hopened _ _).bind fun file => hadd file
  · exact Action.within_pure _

end Within

theorem within_setUp (s : LoggingSettings) : (setUp s).Within World.OnlySetUp :=
  within_setUp_of (fun _ _ => rfl) (fun _ _ h => h.onlySetUp) (fun _ _ _ _ _ => rfl) s

/-- The settings of the program are not changed by it. -/
theorem within_setUp_settings (s : LoggingSettings) : (setUp s).Within (Same World.settings) := by
  refine within_setUp_of (fun _ _ => rfl) (fun _ _ h => ?_) (fun _ _ _ _ _ => rfl) s
  rw [Same, h.onlyTree]

end Logging

end Downlevel
