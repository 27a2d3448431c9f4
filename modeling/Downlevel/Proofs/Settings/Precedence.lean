import Downlevel.Proofs.Configuration.Loading
import Downlevel.Proofs.Settings.Source
import Downlevel.Settings.Loading
/-!
# Which place a setting comes from

The settings of a configuration file are those that its sections name; where a section does not name a
field, the environment counts, then the file of variables, then the default. All else in the file is
passed over, and of the environment the sections read nothing but their variables and the home
directory.
-/
namespace Downlevel

/-! ## The home directory -/

namespace Home

/-- What the home directory is worked out from. -/
def binding (environment : List (String × String)) : List (String × String) :=
  (environment.lookup "HOME").toList.map fun home => ("HOME", home)

theorem lookup_binding (environment : List (String × String)) :
    (binding environment).lookup "HOME" = environment.lookup "HOME" := by
  unfold binding
  cases environment.lookup "HOME" <;> rfl

/-- A path is expanded by the bindings as by the environment. -/
theorem expand_binding (homes : Homes) (environment : List (String × String)) (p : Path) :
    expand homes (binding environment) p = expand homes environment p := by
  unfold expand ofTilde
  rw [lookup_binding]

end Home

theorem Field.homePath_binding (homes : Homes) (environment : List (String × String)) :
    homePath homes (Home.binding environment) = homePath homes environment := by
  funext d
  cases d with
  | text s => simp only [homePath, Home.expand_binding]
  | _ => rfl

theorem Field.optionalHomePath_binding (homes : Homes) (environment : List (String × String)) :
    optionalHomePath homes (Home.binding environment) = optionalHomePath homes environment := by
  funext d
  cases d <;> simp only [optionalHomePath, homePath_binding]

/-- A file of the build tool below the home directory. -/
def Home.buildToolFile (homes : Homes) (environment : List (String × String)) (name : String) :
    Except Failure Path :=
  (directory homes (binding environment)).map fun home => (home.child ".m2").child name

/-- The file of the build tool is that of the environment of the source. -/
theorem buildToolFile_eq (m : Machine) (s : SettingsSource) (name : String) :
    buildToolFile m s name = Home.buildToolFile m.homes s.bindings.environment name := by
  unfold buildToolFile Home.buildToolFile Home.directory
  rw [Home.expand_binding]

/-! ## Sections -/

section

variable {m : Machine} {s : SettingsSource}

namespace RunnerSettings

/-- Every setting of a run is what the first place that sets it says. -/
structure Settled (m : Machine) (s : SettingsSource) (r : RunnerSettings) : Prop where
  entryPoint : s.Settled "embedded_entry_point" (.ok "retrolambda:run") m.libraries.settings.text
    r.entryPoint
  artifactSource : s.Settled "artifact_source" (.ok .directory)
    (Field.source m.libraries.settings) r.artifactSource
  localRepository : s.Settled "local_repository"
    (Home.buildToolFile m.homes s.bindings.environment "repository")
    (Field.homePath m.homes (Home.binding s.bindings.environment)) r.localRepository
  buildTool : s.Settled "maven_executable" (.ok "mvn") m.libraries.settings.text r.buildTool
  version : s.Settled "retrolambda_version" (.ok none)
    (Field.optional m.libraries.settings.text) r.version

/-- The names of the fields. -/
def fieldNames : List String :=
  ["embedded_entry_point", "artifact_source", "local_repository", "maven_executable",
    "retrolambda_version"]

theorem lowercase_fieldNames : ∀ name ∈ fieldNames, Text.lowercase name = name := by
  decide +kernel

/-- What is read for the runner is settled by the order of the sources. -/
theorem settled_of_read {r : RunnerSettings} (horder : m.libraries.settings.Ordered)
    (h : read m s = .value r) : Settled m s r := by
  unfold read at h
  obtain ⟨_, version, h₄, hversion, rfl⟩ := Reading.seq_eq_value.mp h
  obtain ⟨_, buildTool, h₃, hbuildTool, rfl⟩ := Reading.seq_eq_value.mp h₄
  obtain ⟨_, localRepository, h₂, hlocalRepository, rfl⟩ := Reading.seq_eq_value.mp h₃
  obtain ⟨_, artifactSource, h₁, hartifactSource, rfl⟩ := Reading.seq_eq_value.mp h₂
  obtain ⟨_, entryPoint, h₀, hentryPoint, rfl⟩ := Reading.seq_eq_value.mp h₁
  cases h₀
  rw [buildToolFile_eq, ← Field.homePath_binding] at hlocalRepository
  exact {
    entryPoint := horder.settled (lowercase_fieldNames _ (by decide)) hentryPoint
    artifactSource := horder.settled (lowercase_fieldNames _ (by decide)) hartifactSource
    localRepository := horder.settled (lowercase_fieldNames _ (by decide)) hlocalRepository
    buildTool := horder.settled (lowercase_fieldNames _ (by decide)) hbuildTool
    version := horder.settled (lowercase_fieldNames _ (by decide)) hversion }

/-- Entries that name no field do not change how the section is read. -/
theorem read_naming (horder : m.libraries.settings.Ordered) (given : Fields) (bindings : Variables)
    (family : String) : read m ⟨SettingsSource.naming fieldNames given, bindings, family⟩
      = read m ⟨given, bindings, family⟩ := by
  unfold read buildToolFile
  simp (disch := decide) only [horder.field_naming lowercase_fieldNames]

end RunnerSettings

namespace ToolchainSettings

/-- Every setting of toolchains is what the first place that sets it says. -/
structure Settled (m : Machine) (s : SettingsSource) (t : ToolchainSettings) : Prop where
  file : s.Settled "toolchains_file"
    ((Home.buildToolFile m.homes s.bindings.environment "toolchains.xml").map some)
    (Field.optionalHomePath m.homes (Home.binding s.bindings.environment)) t.file
  buildContextVersion : s.Settled "build_context_version" (.ok none)
    (Field.optional m.libraries.settings.text) t.buildContextVersion

/-- The names of the fields. -/
def fieldNames : List String :=
  ["toolchains_file", "build_context_version"]

theorem lowercase_fieldNames : ∀ name ∈ fieldNames, Text.lowercase name = name := by
  decide +kernel

/-- What is read for the toolchains is settled by the order of the sources. -/
theorem settled_of_read {t : ToolchainSettings} (horder : m.libraries.settings.Ordered)
    (h : read m s = .value t) : Settled m s t := by
  unfold read at h
  obtain ⟨_, version, h₁, hversion, rfl⟩ := Reading.seq_eq_value.mp h
  obtain ⟨_, file, h₀, hfile, rfl⟩ := Reading.seq_eq_value.mp h₁
  cases h₀
  rw [buildToolFile_eq, ← Field.optionalHomePath_binding] at hfile
  exact {
    file := horder.settled (lowercase_fieldNames _ (by decide)) hfile
    buildContextVersion := horder.settled (lowercase_fieldNames _ (by decide)) hversion }

/-- Entries that name no field do not change how the section is read. -/
theorem read_naming (horder : m.libraries.settings.Ordered) (given : Fields) (bindings : Variables)
    (family : String) : read m ⟨SettingsSource.naming fieldNames given, bindings, family⟩
      = read m ⟨given, bindings, family⟩ := by
  unfold read buildToolFile
  simp (disch := decide) only [horder.field_naming lowercase_fieldNames]

end ToolchainSettings

namespace LoggingSettings

/-- Every setting of the log is what the first place that sets it says. -/
structure Settled (m : Machine) (s : SettingsSource) (l : LoggingSettings) : Prop where
  level : s.Settled "level" (.ok .info) Field.level l.level
  pattern : s.Settled "format" (.ok "[%(name)s] %(message)s") m.libraries.settings.text l.pattern
  file : s.Settled "file" (.ok none)
    (Field.optionalHomePath m.homes (Home.binding s.bindings.environment)) l.file
  rich : s.Settled "use_rich" (.ok true) m.libraries.settings.bool l.rich

/-- The names of the fields. -/
def fieldNames : List String :=
  ["level", "format", "file", "use_rich"]

theorem lowercase_fieldNames : ∀ name ∈ fieldNames, Text.lowercase name = name := by
  decide +kernel

/-- What is read for the logging is settled by the order of the sources. -/
theorem settled_of_read {l : LoggingSettings} (horder : m.libraries.settings.Ordered)
    (h : read m s = .value l) : Settled m s l := by
  unfold read at h
  obtain ⟨_, rich, h₃, hrich, rfl⟩ := Reading.seq_eq_value.mp h
  obtain ⟨_, file, h₂, hfile, rfl⟩ := Reading.seq_eq_value.mp h₃
  obtain ⟨_, pattern, h₁, hpattern, rfl⟩ := Reading.seq_eq_value.mp h₂
  obtain ⟨_, level, h₀, hlevel, rfl⟩ := Reading.seq_eq_value.mp h₁
  cases h₀
  rw [← Field.optionalHomePath_binding] at hfile
  exact {
    level := horder.settled (lowercase_fieldNames _ (by decide)) hlevel
    pattern := horder.settled (lowercase_fieldNames _ (by decide)) hpattern
    file := horder.settled (lowercase_fieldNames _ (by decide)) hfile
    rich := horder.settled (lowercase_fieldNames _ (by decide)) hrich }

/-- Entries that name no field do not change how the section is read. -/
theorem read_naming (horder : m.libraries.settings.Ordered) (given : Fields) (bindings : Variables)
    (family : String) : read m ⟨SettingsSource.naming fieldNames given, bindings, family⟩
      = read m ⟨given, bindings, family⟩ := by
  unfold read
  simp (disch := decide) only [horder.field_naming lowercase_fieldNames]

end LoggingSettings

end

/-! ## Reading the variables -/

namespace Variables

/-- The file of variables lies in the working directory. -/
theorem fileName_eq : fileName = ⟨.here, [".env"]⟩ := by decide +kernel

/-- To read the variables is to look for their file, to read it, and to tell of the lines in it that are
none. -/
theorem runIn_read (w : World) : read.runIn w = match w.tree.isFile w.cwd fileName with
    | .error e => (.error (Files.failure e fileName), w)
    | .ok false => (.ok ⟨w.environment, []⟩, w)
    | .ok true => match w.tree.read w.cwd fileName with
      | .error e => (.error (Files.failure e fileName), w)
      | .ok bytes => match w.machine.libraries.settings.parseFile w.environment bytes with
        | .error e => (.error e, w)
        | .ok (bindings, faults) => (tell faults >>= fun _ =>
          pure ⟨w.environment, bindings⟩ : Action Variables).runIn w := by
  unfold read
  rw [Action.runIn_bind_ok (Action.runIn_get w), Action.runIn_bind, Files.runIn_isFile]
  cases w.tree.isFile w.cwd fileName with
  | error e => rfl
  | ok found =>
    cases found with
    | false => rfl
    | true =>
      dsimp only [Files.refused, if_true]
      rw [if_pos rfl, Action.runIn_bind, Files.runIn_read]
      cases w.tree.read w.cwd fileName with
      | error e => rfl
      | ok bytes =>
        dsimp only [Files.refused]
        rw [Action.runIn_bind, Action.runIn_ofExcept]
        cases w.machine.libraries.settings.parseFile w.environment bytes <;> rfl

theorem within_tell (faults : List Nat) : (tell faults).Within World.OnlyRecorded :=
  Action.Within.forM (fun _ => within_logAs_onlyRecorded _ _ _) faults

theorem within_read : read.Within World.OnlyRecorded := by
  intro w
  rw [runIn_read]
  split
  · exact World.OnlyRecorded.refl w
  · exact World.OnlyRecorded.refl w
  · split
    · exact World.OnlyRecorded.refl w
    · split
      · exact World.OnlyRecorded.refl w
      · exact (within_tell _).bind (fun _ => Action.within_pure _) w

/-- Without a file of variables only those of the environment are read. -/
theorem read_of_no_file {w : World} (h : w.tree.isFile w.cwd fileName = .ok false) :
    read.runIn w = (.ok ⟨w.environment, []⟩, w) := by
  rw [runIn_read, h]

/-- So it is in a root in which nothing has the name of the file. -/
theorem read_of_vacant {w : World} (hcwd : w.cwd = []) (hopen : w.tree.refusal? [] ".env" = none)
    (hvacant : w.tree.find? [".env"] = none) : read.runIn w = (.ok ⟨w.environment, []⟩, w) := by
  have hfits : FileTree.pathRefusal? fileName = none := by
    rw [fileName_eq]
    decide
  have hplace : w.tree.locate w.cwd true fileName = .ok [".env"] := by
    rw [FileTree.locate_of_fits hfits, fileName_eq, hcwd]
    exact FileTree.walk_last hopen (by decide) (by decide) rfl
      fun _ => FileTree.ne_link_of_vacant hvacant
  have hstatus : w.tree.status w.cwd fileName = .error .noEntry := by
    rw [FileTree.status, hplace]
    dsimp only
    rw [hvacant]
  exact read_of_no_file (FileTree.isFile_of_noEntry hstatus)

/-- The variables are read alike after messages, unless their file is a log. -/
theorem read_congr {w w' : World} (h : w.OnlyRecorded w') (hfile : w.Unlogged fileName) :
    (read.runIn w').1 = (read.runIn w).1 := by
  have henvironment : w'.environment = w.environment := by
    rw [h.rest]
  have hmachine : w'.machine = w.machine := by
    rw [h.rest]
  rw [runIn_read, runIn_read, h.cwd, h.grown.sameShape.isFile, h.grown.read hfile, henvironment,
    hmachine]
  split
  · rfl
  · rfl
  · split
    · rfl
    · split
      · rfl
      · rename_i bindings faults _
        -- Faults of the file are told, and the variables do not depend on it.
        have htold : (tell faults >>= fun _ =>
            pure ⟨w.environment, bindings⟩ : Action Variables).Fixed :=
          (Action.Fixed.forM (fun _ => Action.fixed_logAs _ _ _) _).bind fun _ =>
            Action.fixed_pure _
        exact htold w w'

/-- The variables have the environment of the world. -/
theorem environment_of_read {w w' : World} {vs : Variables} (h : read.runIn w = (.ok vs, w')) :
    vs.environment = w.environment := by
  rw [runIn_read] at h
  split at h
  · cases h
  · cases h
    rfl
  · split at h
    · cases h
    · split at h
      · cases h
      · obtain ⟨_, w₁, -, hpure⟩ := Action.runIn_bind_eq_ok h
        cases hpure
        rfl

end Variables

namespace SectionVariables

theorem ofPlace_of_unset (source : String) {value? : String → Option String}
    (h : ∀ name ∈ sectionNames, value? (familyName ++ name) = none) :
    ofPlace source value? = .ok [none, none, none] := by
  simp only [sectionNames, List.forall_mem_cons] at h
  unfold ofPlace sectionNames
  simp only [List.mapM_cons, h.1, h.2.1, h.2.2.1]
  rfl

/-- Without a variable for a whole section there are no data in the variables of the sections. -/
theorem ofVariables_of_unset {vs : Variables}
    (henvironment : ∀ name ∈ sectionNames, vs.inEnvironment? (familyName ++ name) = none)
    (hfile : ∀ name ∈ sectionNames, vs.inFile? (familyName ++ name) = none) :
    ofVariables vs = .ok [none, none, none] := by
  unfold ofVariables
  rw [ofPlace_of_unset _ henvironment, ofPlace_of_unset _ hfile]
  rfl

/-- What the sections get from the variables is one function of them. -/
theorem runIn_read {w w' : World} {vs : Variables} (hvs : Variables.read.runIn w = (.ok vs, w')) :
    read.runIn w = (w'.machine.libraries.settings.wholeSections vs, w') := by
  unfold read
  rw [Action.runIn_bind_ok hvs, Action.runIn_bind_ok (Action.runIn_view _ w'),
    Action.runIn_ofExcept]

end SectionVariables

/-- Variables are what is read in a world, or what is read there after messages. -/
def World.Finds (w : World) (vs : Variables) : Prop :=
  ∃ w', w.OnlyRecorded w' ∧ (Variables.read.runIn w').1 = .ok vs

/-- The variables that a world finds have its environment. -/
theorem World.Finds.environment {w : World} {vs : Variables} (h : w.Finds vs) :
    vs.environment = w.environment := by
  obtain ⟨w', hrecorded, hread⟩ := h
  have henvironment := Variables.environment_of_read (w := w') (Prod.ext hread rfl)
  rw [henvironment, hrecorded.rest]

/-- What is found is what is read at once, unless the file of variables is a log. -/
theorem World.Finds.read {w : World} {vs : Variables} (h : w.Finds vs)
    (hfile : w.Unlogged Variables.fileName) : (Variables.read.runIn w).1 = .ok vs := by
  obtain ⟨w', hrecorded, hread⟩ := h
  rw [← Variables.read_congr hrecorded hfile, hread]

/-! ## Loading a file -/

namespace SettingsSection

variable {α : Type}

/-- Where a section with given fields is read from. -/
def source (s : SettingsSection α) (given : Fields) (vs : Variables) : SettingsSource :=
  ⟨given, vs, SectionVariables.familyName ++ s.name ++ "_"⟩

/-- A section that was loaded was read from the variables of the world. -/
theorem load_eq_ok {s : SettingsSection α} {given : Fields} {w w' : World} {x : α}
    (h : (s.load given).runIn w = (.ok x, w')) :
    ∃ vs, Variables.read.runIn w = (.ok vs, w') ∧
      s.read w'.machine (s.source given vs) = .value x := by
  obtain ⟨r, w₁, hreading, hresult⟩ := Action.runIn_bind_eq_ok h
  rw [Action.runIn_ofExcept] at hresult
  obtain ⟨hok, rfl⟩ := Prod.mk.inj hresult
  unfold reading at hreading
  split at hreading
  · obtain ⟨vs, w₂, hvs, hread⟩ := Action.runIn_bind_eq_ok hreading
    rw [Action.runIn_bind_ok (Action.runIn_view _ w₂)] at hread
    cases hread
    exact ⟨vs, hvs, Reading.result_eq_ok.mp hok⟩
  · cases hreading
    cases hok

/-- A section that can be read is loaded. -/
theorem load_of_read {s : SettingsSection α} {given : Fields} {w w' : World} {vs : Variables} {x : α}
    (hnames : hasNames given = true) (hvs : Variables.read.runIn w = (.ok vs, w'))
    (hread : s.read w'.machine (s.source given vs) = .value x) :
    (s.load given).runIn w = (.ok x, w') := by
  have hreading : (s.reading given).runIn w = (.ok (.value x), w') := by
    unfold reading
    rw [if_pos hnames, Action.runIn_bind_ok hvs, Action.runIn_bind_ok (Action.runIn_view _ w'),
      ← hread]
    rfl
  unfold load
  rw [Action.runIn_bind_ok hreading]
  rfl

end SettingsSection

namespace Configuration

theorem within_readEntries (p : Path) : (readEntries p).Within (Same id) := by
  intro w
  rw [runIn_readEntries]
  exact Std.Refl.refl w

theorem load_eq_ok {p : Path} {w w' : World} {entries : Fields} {c : Configuration}
    (h : (load { path := some p } none).runIn w = (.ok (entries, c), w')) :
    (readEntries p).runIn w = (.ok entries, w) ∧ c = ⟨some p, entries⟩ ∧ w' = w := by
  obtain ⟨read, w₁, hread, hpure⟩ := Action.runIn_bind_eq_ok h
  have hsame : w₁ = w := (within_readEntries p).of_runIn hread
  cases hpure
  rw [hsame] at hread
  exact ⟨hread, rfl, hsame⟩

end Configuration

namespace Settings

variable {p : Path} {w w' : World} {s : Settings}

/-- Settings are read from the sections of a file, each with the variables that it finds. -/
structure Loaded (p : Path) (w : World) (s : Settings) (c : Configuration)
    (forRunner forToolchain forLogging : Variables) : Prop where
  entries : (Configuration.readEntries p).runIn w = (.ok c.entries, w)
  finds : ∀ vs ∈ [forRunner, forToolchain, forLogging], w.Finds vs
  runner : RunnerSettings.read w.machine
    (RunnerSettings.inSettings.source (c.sectionNamed "runner") forRunner) = .value s.runner
  toolchain : ToolchainSettings.read w.machine
    (ToolchainSettings.inSettings.source (c.sectionNamed "toolchain") forToolchain)
      = .value s.toolchain
  logging : LoggingSettings.read w.machine
    (LoggingSettings.inSettings.source (c.sectionNamed "logging") forLogging) = .value s.logging

/-- Given sections are the settings. -/
theorem ofSections_eq_ok {runner : RunnerSettings} {toolchain : ToolchainSettings}
    {logging : LoggingSettings}
    (h : (ofSections (some runner) (some toolchain) (some logging)).runIn w = (.ok s, w')) :
    s = ⟨runner, toolchain, logging⟩ := by
  obtain ⟨parts, w₁, -, hgiven⟩ := Action.runIn_bind_eq_ok h
  cases hgiven
  rfl

/-- Settings that were made of a file were loaded section by section. -/
theorem exists_loaded (h : (ofFile p).runIn w = (.ok s, w')) :
    ∃ c forRunner forToolchain forLogging,
      Loaded p w s c forRunner forToolchain forLogging := by
  obtain ⟨⟨entries, c⟩, w₁, hload, h₁⟩ := Action.runIn_bind_eq_ok h
  obtain ⟨hentries, rfl, rfl⟩ := Configuration.load_eq_ok hload
  obtain ⟨runner, w₂, hrunner, h₂⟩ := Action.runIn_bind_eq_ok h₁
  obtain ⟨toolchain, w₃, htoolchain, h₃⟩ := Action.runIn_bind_eq_ok h₂
  obtain ⟨logging, w₄, hlogging, h₄⟩ := Action.runIn_bind_eq_ok h₃
  obtain ⟨forRunner, hread₁, hvalue₁⟩ := SettingsSection.load_eq_ok hrunner
  obtain ⟨forToolchain, hread₂, hvalue₂⟩ := SettingsSection.load_eq_ok htoolchain
  obtain ⟨forLogging, hread₃, hvalue₃⟩ := SettingsSection.load_eq_ok hlogging
  obtain rfl := ofSections_eq_ok h₄
  -- Each section reads the variables after what the sections before it told.
  have hfirst : w₁.OnlyRecorded w₂ := Variables.within_read.of_runIn hread₁
  have hsecond : w₁.OnlyRecorded w₃ := hfirst.trans (Variables.within_read.of_runIn hread₂)
  have hthird : w₁.OnlyRecorded w₄ := hsecond.trans (Variables.within_read.of_runIn hread₃)
  rw [hfirst.machine] at hvalue₁
  rw [hsecond.machine] at hvalue₂
  rw [hthird.machine] at hvalue₃
  refine ⟨⟨some p, entries⟩, forRunner, forToolchain, forLogging, hentries, ?_, hvalue₁, hvalue₂,
    hvalue₃⟩
  intro vs hvs
  simp only [List.mem_cons, List.not_mem_nil, or_false] at hvs
  rcases hvs with rfl | rfl | rfl
  · exact ⟨w₁, .refl w₁, congrArg Prod.fst hread₁⟩
  · exact ⟨w₂, hfirst, congrArg Prod.fst hread₂⟩
  · exact ⟨w₃, hsecond, congrArg Prod.fst hread₃⟩

/-- Two readings of a section agree if they find the same variables and the entries that name its
fields are the same. -/
theorem eq_of_naming {α : Type} {read : SettingsSource → Reading α} {names : List String}
    (hread : ∀ given bindings family,
      read ⟨SettingsSource.naming names given, bindings, family⟩ = read ⟨given, bindings, family⟩)
    {given given' : Fields} {vs : Variables} {family : String} {x x' : α}
    (h : read ⟨given, vs, family⟩ = .value x) (h' : read ⟨given', vs, family⟩ = .value x')
    (hsame : SettingsSource.naming names given' = SettingsSource.naming names given) : x' = x := by
  rw [← hread, hsame, hread, h] at h'
  exact (Reading.value.inj h').symm

/-- **Which place a setting comes from.** If the settings of a file can be loaded, each field has the
value that the section in the file gives under its name; if no entry names it, that of its variable in
the environment, or else in the file of variables, or else its default. The variables are those of the
environment and of the file of variables as the section finds it, which is as it was at first unless the
log writes to it; and a reader looks at the home directory besides, and at nothing else. So two files
with the same entries for the fields of a section give the same section where the same variables are
found, whatever else is in them. Of the library of settings the order of the places is asked, and nothing
of how it checks the data. -/
theorem ofFile_precedence (horder : w.machine.libraries.settings.Ordered) (h : (ofFile p).runIn w = (.ok s, w')) :
    ∃ (c : Configuration) (forRunner forToolchain forLogging : Variables),
      (Configuration.readEntries p).runIn w = (.ok c.entries, w) ∧
      (∀ vs ∈ [forRunner, forToolchain, forLogging], w.Finds vs ∧ vs.environment = w.environment ∧
        (w.Unlogged Variables.fileName → (Variables.read.runIn w).1 = .ok vs)) ∧
      RunnerSettings.Settled w.machine
        (RunnerSettings.inSettings.source (c.sectionNamed "runner") forRunner) s.runner ∧
      ToolchainSettings.Settled w.machine
        (ToolchainSettings.inSettings.source (c.sectionNamed "toolchain") forToolchain)
        s.toolchain ∧
      LoggingSettings.Settled w.machine
        (LoggingSettings.inSettings.source (c.sectionNamed "logging") forLogging) s.logging ∧
      ∀ p₂ w₂ w₂' s₂ (c₂ : Configuration), w₂.machine = w.machine →
        (ofFile p₂).runIn w₂ = (.ok s₂, w₂') →
        (Configuration.readEntries p₂).runIn w₂ = (.ok c₂.entries, w₂) →
        w.Unlogged Variables.fileName → w₂.Unlogged Variables.fileName →
        (Variables.read.runIn w₂).1 = (Variables.read.runIn w).1 →
        (SettingsSource.naming RunnerSettings.fieldNames (c₂.sectionNamed "runner")
            = SettingsSource.naming RunnerSettings.fieldNames (c.sectionNamed "runner") →
          s₂.runner = s.runner) ∧
        (SettingsSource.naming ToolchainSettings.fieldNames (c₂.sectionNamed "toolchain")
            = SettingsSource.naming ToolchainSettings.fieldNames (c.sectionNamed "toolchain") →
          s₂.toolchain = s.toolchain) ∧
        (SettingsSource.naming LoggingSettings.fieldNames (c₂.sectionNamed "logging")
            = SettingsSource.naming LoggingSettings.fieldNames (c.sectionNamed "logging") →
          s₂.logging = s.logging) := by
  obtain ⟨c, forRunner, forToolchain, forLogging, hl⟩ := exists_loaded h
  refine ⟨c, forRunner, forToolchain, forLogging, hl.entries, ?_,
    RunnerSettings.settled_of_read horder hl.runner,
    ToolchainSettings.settled_of_read horder hl.toolchain,
    LoggingSettings.settled_of_read horder hl.logging, ?_⟩
  · intro vs hvs
    have hfinds := hl.finds vs hvs
    exact ⟨hfinds, hfinds.environment, hfinds.read⟩
  · intro p₂ w₂ w₂' s₂ c₂ hmachine h₂ hentries hfile hfile₂ hsame
    obtain ⟨c', forRunner₂, forToolchain₂, forLogging₂, hl₂⟩ := exists_loaded h₂
    -- All six readings of the variables give the same, as no log goes into the file.
    have hvs : ∀ vs ∈ [forRunner, forToolchain, forLogging],
        ∀ vs₂ ∈ [forRunner₂, forToolchain₂, forLogging₂], vs₂ = vs := by
      intro vs hvs vs₂ hvs₂
      have hread₂ := (hl₂.finds vs₂ hvs₂).read hfile₂
      rw [hsame, (hl.finds vs hvs).read hfile] at hread₂
      exact (Except.ok.inj hread₂).symm
    -- The entries of a file are those that were read from it.
    have hc : ∀ name, c'.sectionNamed name = c₂.sectionNamed name := by
      have heq : c'.entries = c₂.entries := by
        have hboth := hl₂.entries.symm.trans hentries
        exact Except.ok.inj (congrArg Prod.fst hboth)
      intro name
      unfold Configuration.sectionNamed
      rw [heq]
    have hrunner := hl₂.runner
    have htoolchain := hl₂.toolchain
    have hlogging := hl₂.logging
    rw [hmachine, hc, hvs forRunner (by simp) forRunner₂ (by simp)] at hrunner
    rw [hmachine, hc, hvs forToolchain (by simp) forToolchain₂ (by simp)] at htoolchain
    rw [hmachine, hc, hvs forLogging (by simp) forLogging₂ (by simp)] at hlogging
    exact ⟨eq_of_naming (RunnerSettings.read_naming horder) hl.runner hrunner,
      eq_of_naming (ToolchainSettings.read_naming horder) hl.toolchain htoolchain,
      eq_of_naming (LoggingSettings.read_naming horder) hl.logging hlogging⟩

/-! ## A field in another spelling -/

/-- A machine with a file that names a field in capitals, and no variables but the home directory. -/
def spelledMachine : World :=
  { Configuration.machineWith "runner:\n  MAVEN_EXECUTABLE: x\n" with
    environment := [("HOME", "/home/user")] }

/-- The entries of the file. -/
def spelledEntries : Fields :=
  [(.text "runner", .map [(.text "MAVEN_EXECUTABLE", .text "x")])]

/-- What is found there. -/
def spelledVariables : Variables :=
  ⟨[("HOME", "/home/user")], []⟩

/-- Whether these entries were read. Data are not compared by a decision procedure, as they may hold
floats; the texts in them are. -/
def areSpelled : Except Failure Data → Bool
  | .ok (.map [(.text section_, .map [(.text name, .text value)])]) =>
    section_ == "runner" && name == "MAVEN_EXECUTABLE" && value == "x"
  | _ => false

theorem eq_of_areSpelled {r : Except Failure Data} (h : areSpelled r = true) :
    r = .ok (.map spelledEntries) := by
  unfold areSpelled at h
  split at h
  · simp only [Bool.and_eq_true, beq_iff_eq] at h
    obtain ⟨⟨rfl, rfl⟩, rfl⟩ := h
    rfl
  · cases h

theorem readEntries_spelledFile :
    (Configuration.readEntries Configuration.rootFile).runIn spelledMachine
      = (.ok spelledEntries, spelledMachine) := by
  have hholds : Configuration.Holds spelledMachine Configuration.rootFile (.map spelledEntries) :=
    ⟨_, Configuration.read_machineWith _, eq_of_areSpelled (by decide +kernel)⟩
  rw [Configuration.runIn_readEntries, Configuration.entriesAt_of_holds hholds]
  rfl

theorem read_spelledMachine :
    Variables.read.runIn spelledMachine = (.ok spelledVariables, spelledMachine) :=
  Variables.read_of_vacant rfl (by decide) (by decide)

/-- The settings of the file. -/
def spelledSettings : Settings where
  runner := ⟨"retrolambda:run", .directory, Path.ofString "/home/user/.m2/repository", "x", none⟩
  toolchain := ⟨some (Path.ofString "/home/user/.m2/toolchains.xml"), none⟩
  logging := ⟨.info, "[%(name)s] %(message)s", none, true⟩

theorem runIn_ofFile_spelled :
    (ofFile Configuration.rootFile).runIn spelledMachine = (.ok spelledSettings, spelledMachine) := by
  have hload : (Configuration.load { path := some Configuration.rootFile } none).runIn spelledMachine
      = (.ok (spelledEntries, ⟨some Configuration.rootFile, spelledEntries⟩), spelledMachine) := by
    unfold Configuration.load
    exact Action.runIn_bind_ok readEntries_spelledFile _
  have hrunner : (RunnerSettings.inSettings.load
      [(.text "MAVEN_EXECUTABLE", .text "x")]).runIn spelledMachine
        = (.ok spelledSettings.runner, spelledMachine) :=
    SettingsSection.load_of_read rfl read_spelledMachine
      (Reading.toOption_eq_some.mp (by decide +kernel))
  have htoolchain : (ToolchainSettings.inSettings.load []).runIn spelledMachine
      = (.ok spelledSettings.toolchain, spelledMachine) :=
    SettingsSection.load_of_read rfl read_spelledMachine
      (Reading.toOption_eq_some.mp (by decide +kernel))
  have hlogging : (LoggingSettings.inSettings.load []).runIn spelledMachine
      = (.ok spelledSettings.logging, spelledMachine) :=
    SettingsSection.load_of_read rfl read_spelledMachine
      (Reading.toOption_eq_some.mp (by decide +kernel))
  -- No section is set as a whole.
  have hsections : SectionVariables.read.runIn spelledMachine
      = (.ok [none, none, none], spelledMachine) := by
    rw [SectionVariables.runIn_read read_spelledMachine]
    have hunset : SectionVariables.ofVariables spelledVariables = .ok [none, none, none] :=
      SectionVariables.ofVariables_of_unset (by decide +kernel) (by decide +kernel)
    exact congrArg (·, spelledMachine) hunset
  unfold ofFile
  rw [Action.runIn_bind_ok hload]
  dsimp only
  refine (Action.runIn_bind_ok hrunner _).trans ?_
  refine (Action.runIn_bind_ok htoolchain _).trans ?_
  refine (Action.runIn_bind_ok hlogging _).trans ?_
  exact Action.runIn_bind_ok hsections _

/-- The field is set though no entry has its name as key. -/
theorem ofFile_other_spelling :
    (ofFile Configuration.rootFile).runIn spelledMachine = (.ok spelledSettings, spelledMachine) ∧
      (Configuration.readEntries Configuration.rootFile).runIn spelledMachine
        = (.ok spelledEntries, spelledMachine) ∧
      Data.field? "maven_executable"
        (Configuration.sectionNamed ⟨none, spelledEntries⟩ "runner") = none ∧
      Variables.read.runIn spelledMachine = (.ok ⟨[("HOME", "/home/user")], []⟩, spelledMachine) ∧
      spelledSettings.runner.buildTool ≠ "mvn" :=
  ⟨runIn_ofFile_spelled, readEntries_spelledFile, rfl, read_spelledMachine, by decide⟩

/-- Of the file with the other spelling one field is set; the level of the log has its default. -/
theorem ofFile_precedence_spelled :
    SettingsLibrary.standard.Ordered ∧
      (ofFile Configuration.rootFile).runIn spelledMachine
        = (.ok spelledSettings, spelledMachine) ∧
      Field.text (.text "x") = .value spelledSettings.runner.buildTool ∧
      (Except.ok .info : Except Failure Level) = .ok spelledSettings.logging.level := by
  refine ⟨SettingsLibrary.ordered_standard, runIn_ofFile_spelled, ?_⟩
  obtain ⟨⟨path, entries⟩, forRunner, forToolchain, forLogging, hentries, hvs, hrunner, -, hlogging,
    -⟩ := ofFile_precedence (w := spelledMachine) SettingsLibrary.ordered_standard runIn_ofFile_spelled
  -- The machine logs into no file, so that every section reads the same variables.
  have hfound : ∀ vs ∈ [forRunner, forToolchain, forLogging], spelledVariables = vs := by
    intro vs hmem
    have hread := (hvs vs hmem).2.2 fun _ _ _ _ => List.not_mem_nil
    rw [read_spelledMachine] at hread
    exact Except.ok.inj hread
  obtain rfl := hfound forRunner (by simp)
  obtain rfl := hfound forLogging (by simp)
  rw [readEntries_spelledFile] at hentries
  obtain rfl : spelledEntries = entries := Except.ok.inj (congrArg Prod.fst hentries)
  constructor
  · have hnamed : Data.NamesField "maven_executable" (.text "MAVEN_EXECUTABLE", .text "x") :=
      ⟨_, rfl, by decide +kernel⟩
    have hnot : ¬ SettingsSource.Unnamed (RunnerSettings.inSettings.source
        [(.text "MAVEN_EXECUTABLE", .text "x")] spelledVariables) "maven_executable" :=
      fun hunnamed => hunnamed _ List.mem_cons_self hnamed
    rcases hrunner.buildTool with ⟨d, hsets, hread⟩ | ⟨hsets, -⟩
    · obtain ⟨e, he, -, hd⟩ := hsets.of_named (by decide +kernel) hnot
      rw [List.mem_singleton.mp he] at hd
      cases hd
      exact hread
    · obtain ⟨e, -, -, hnone⟩ := hsets.of_named (by decide +kernel) hnot
      cases hnone
  · have hunset : ∀ v ∈ spelledVariables.environment,
        Text.lowercase v.1 ≠ "retrolambda_logging_level" := by
      decide +kernel
    rcases hlogging.level with ⟨d, hsets, -⟩ | ⟨-, hdefault⟩
    · have hnone := hsets.eq_none (by decide +kernel) (fun _ he => absurd he List.not_mem_nil)
        hunset (fun _ hv => absurd hv List.not_mem_nil)
      cases hnone
    · exact hdefault

end Settings

end Downlevel
