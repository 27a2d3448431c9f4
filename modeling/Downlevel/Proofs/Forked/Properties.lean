import Downlevel.Backend.Embedded
import Downlevel.Backend.Forked
import Downlevel.Proofs.ClasspathFile.Steps
import Downlevel.Proofs.Host.Release
import Downlevel.Proofs.World.Idle
/-!
# One configuration in two forms

A run in the same process hands the properties of its configuration to the entry point. A forked run
writes each property as an argument, and the classpath as a file that an argument names. An argument
is read back as the property that it was written from, and the lines of the file are the entries of
the classpath unless an entry holds a line feed.
-/
namespace Downlevel

/-! ## Properties as arguments -/

namespace Forked

/-- A property as an argument. -/
def argumentOf (property : String × String) : String :=
  "-D" ++ property.1 ++ "=" ++ property.2

/-- The property that an argument sets: what stands before and after its first equals sign. -/
def propertyOf (argument : String) : Option (String × String) :=
  if "-D".toList.isPrefixOf argument.toList then
    (Host.assignment? (argument.toList.drop 2)).map fun kv =>
      (String.ofList kv.1, String.ofList kv.2)
  else none

/-- An argument is read back as its property, whatever the value holds. -/
theorem propertyOf_argumentOf {property : String × String} (h : '=' ∉ property.1.toList) :
    propertyOf (argumentOf property) = some property := by
  have hD : "-D".toList = ['-', 'D'] := by decide
  have heq : "=".toList = ['='] := by decide
  have hchars : (argumentOf property).toList
      = '-' :: 'D' :: (property.1.toList ++ '=' :: property.2.toList) := by
    simp only [argumentOf, String.toList_append, hD, heq, List.cons_append, List.nil_append,
      List.append_assoc]
  rw [propertyOf, hchars, hD, if_pos (by simp [List.isPrefixOf]), List.drop_succ_cons,
    List.drop_succ_cons, List.drop_zero, Host.assignment?_append h]
  simp only [Option.map_some, String.ofList_toList]

/-- A property as a forked run gives it: the classpath gives way to its file. -/
def givenProperty (file : Path) (property : String × String) : String × String :=
  if property.1 = BuildConfig.classpathKey then (BuildConfig.classpathFileKey, file.toString)
  else property

/-- A property of the plan is the argument of a given property. -/
theorem propertyArgument_eq (file : Path) (property : String × String) :
    propertyArgument file property = argumentOf (givenProperty file property) := by
  unfold propertyArgument givenProperty
  split <;> rfl

end Forked

namespace BuildConfig

/-- No key of a property has an equals sign. -/
theorem equals_not_mem_key (c : BuildConfig) {property : String × String}
    (h : property ∈ c.properties) : '=' ∉ property.1.toList := by
  simp only [properties, List.mem_cons, List.not_mem_nil, or_false] at h
  rcases h with rfl | rfl | rfl | rfl | rfl | rfl | rfl | rfl <;> dsimp only <;> decide

/-- The classpath is one of the properties, and none of the others. -/
theorem properties_classpath (c : BuildConfig) :
    ∃ before after, c.properties = before ++ (classpathKey, c.classpathText) :: after ∧
      ∀ property ∈ before ++ after, property.1 ≠ classpathKey := by
  refine ⟨c.properties.take 5, c.properties.drop 6, rfl, ?_⟩
  intro property h
  simp only [properties, List.take_succ_cons, List.take_zero, List.drop_succ_cons, List.drop_zero,
    List.cons_append, List.nil_append, List.mem_cons, List.not_mem_nil, or_false] at h
  rcases h with rfl | rfl | rfl | rfl | rfl | rfl | rfl <;> dsimp only <;> decide

/-- The text of the classpath file: the entries on lines of their own. -/
def classpathLines (c : BuildConfig) : String :=
  "\n".intercalate c.classpath

end BuildConfig

/-! ## The entry point -/

/-- What a name stands for depends on the modules of the world alone. -/
theorem Embedded.load_congr {w w' : World} (h : w'.modules = w.modules) (spec : String) :
    load w' spec = load w spec := by
  have hpackage : Modules.isPackage w' = Modules.isPackage w := by
    funext name
    rw [Modules.isPackage, Modules.isPackage, h]
  have hknown : Modules.isKnown w' = Modules.isKnown w := by
    funext name
    rw [Modules.isKnown, Modules.isKnown, hpackage, h]
  have hcode : Modules.runCode w' = Modules.runCode w := by
    funext name
    rw [Modules.runCode, Modules.runCode, h]
  have hparts : Modules.loadParts w' = Modules.loadParts w := by
    funext loaded parts
    induction parts generalizing loaded with
    | nil => rfl
    | cons part parts ih =>
      rw [Modules.loadParts, Modules.loadParts, hknown, hpackage, hcode]
      simp only [ih]
  have hmember : Modules.member w' = Modules.member w := by
    funext name path
    unfold Modules.member Modules.load Modules.loadAll Modules.object
    rw [hknown, hparts, hcode, h]
  rw [load, load, hmember]

/-- Recording has no influence on what an entry point stands for. -/
theorem Embedded.entry_recorded (point : EntryPoint) (w : World) (logger message : String)
    (level : Level) : point.entry (w.recorded logger level message) = point.entry w := by
  cases point with
  | named spec =>
    apply load_congr
    rw [(World.onlyRecorded_recorded w logger level message).rest]
  | loaded entry => rfl

namespace Embedded

variable {point : EntryPoint} {entry : Entry} {w : World}

/-- The failure to run an entry point. -/
def notRun (point : EntryPoint) (e : Failure) : Failure :=
  .because (.about .embeddedCall ("Failed to run Retrolambda: " ++ e.fault.text)
    (some (.text point.name))) e

/-- A run through an entry point that can be loaded is a call of it. Whatever it raises is a failure
of the run, but for an order to stop, which stays what it is. -/
theorem runIn_run (h : point.entry w = .ok entry) (config : BuildConfig) :
    (run point config).runIn w
      = match (call entry config.properties).runIn
          (w.recorded logger .info "Processing classes with Retrolambda") with
        | (.ok _, x) => (.ok {
            backend := some name
            duration := x.clock
              - (w.recorded logger .info "Processing classes with Retrolambda").clock }, x)
        | (.error e, x) => (.error (if e.fault.isExit then e else notRun point e), x) := by
  unfold run
  rw [Action.runIn_bind_ok (Action.runIn_logAs _ _ _ _),
    Action.runIn_bind_ok (Action.runIn_view _ _), Action.runIn_bind, Action.runIn_orFail,
    Action.runIn_bind_ok (Action.runIn_get _), entry_recorded, h,
    Action.runIn_bind_ok (Action.runIn_ofExcept (.ok entry) _)]
  -- What was raised is wrapped, unless it asks the program to exit.
  rcases (call entry config.properties).runIn _ with ⟨e | ⟨⟩, x⟩
  · cases hexit : e.fault.isExit
    · simp only [hexit, Bool.not_false, if_true]
      rfl
    · simp only [hexit, Bool.not_true, Bool.false_eq_true, if_false, if_true]
  · rfl

/-- An entry point that can be loaded is called once, with the properties in order. -/
theorem calls_run (h : point.entry w = .ok entry) (config : BuildConfig) :
    ((run point config).runIn w).2.calls = w.calls ++ [⟨entry.target, config.properties⟩] := by
  have hcalled := (started_call entry config.properties
    (w.recorded logger .info "Processing classes with Retrolambda")).2
  rw [World.recorded_calls] at hcalled
  rw [← hcalled, runIn_run h]
  rcases (call entry config.properties).runIn _ with ⟨_ | _, w'⟩ <;> rfl

/-- What a run gives is decided by what the function raises. -/
theorem exists_fst_run (h : point.entry w = .ok entry) (config : BuildConfig) :
    ∃ duration, ((run point config).runIn w).1 = match entry.raised with
      | some e => .error (if e.fault.isExit then e else notRun point e)
      | none => .ok { backend := some name, duration } := by
  have hcall (v : World) : ((call entry config.properties).runIn v).1 = match entry.raised with
      | some e => .error e
      | none => .ok ⟨⟩ := by
    unfold call
    rw [Action.runIn_bind_ok (Action.runIn_modify _ v)]
    cases entry.raised <;> rfl
  have hcalled := hcall (w.recorded logger .info "Processing classes with Retrolambda")
  rw [runIn_run h]
  -- The clock has no part in whether the call returned.
  revert hcalled
  rcases (call entry config.properties).runIn _ with ⟨e | ⟨⟩, x⟩
  · cases entry.raised with
    | none => exact nofun
    | some e' =>
      rintro ⟨⟩
      exact ⟨0, rfl⟩
  · cases entry.raised with
    | none => exact fun _ => ⟨_, rfl⟩
    | some e' => exact nofun

end Embedded

namespace Forked

/-! ## Both forms -/

/-- All properties are read back from the command line. -/
theorem map_propertyOf (config : BuildConfig) (file : Path) :
    (config.properties.map (propertyArgument file)).map propertyOf
      = config.properties.map fun property => some (givenProperty file property) := by
  rw [List.map_map]
  apply List.map_congr_left
  intro property h
  have hkey : '=' ∉ (givenProperty file property).1.toList := by
    unfold givenProperty
    split
    · dsimp only
      decide
    · exact config.equals_not_mem_key h
  rw [Function.comp_apply, propertyArgument_eq, propertyOf_argumentOf hkey]

/-- A classpath file is written, and holds the entries with line feeds between them, unless it cannot be
made or the system breaks the writing off. -/
theorem read_write (config : BuildConfig) (directory : Option Path) (w : World) :
    (∃ p w', (ClasspathFile.write (config.classpath.map Text.codePoints) directory).runIn w
        = (.ok p, w') ∧ w'.tree.read w'.cwd p = .ok (Text.utf8 config.classpathLines)) ∨
    (∃ e, ((ClasspathFile.write (config.classpath.map Text.codePoints) directory).runIn w).1
        = .error e ∧ (((ClasspathFile.make directory).runIn w).1 = .error e ∨
          ∃ b, Files.nextBreak w = some b)) := by
  have hencoded : Text.encodeUtf8 (ClasspathFile.contents (config.classpath.map Text.codePoints))
      = .ok (Text.utf8 config.classpathLines) := by
    rw [ClasspathFile.contents_codePoints, Text.encodeUtf8_codePoints]
    rfl
  rcases ClasspathFile.runIn_write (config.classpath.map Text.codePoints) directory w with
    ⟨p, bytes, n, tree, hrun, -, hbytes, hfile⟩ | ⟨e, n, hrun, hmade⟩ |
    ⟨e, p, n, breaks, hrun, -, hunwritable⟩
  · left
    rw [hencoded] at hbytes
    cases hbytes
    exact ⟨p, _, hrun, hfile.read⟩
  · right
    exact ⟨e, by rw [hrun], Or.inl hmade⟩
  · right
    refine ⟨_, by rw [hrun], Or.inr ?_⟩
    rcases hunwritable with ⟨run, hrefused⟩ | hbreak
    · rw [hencoded] at hrefused
      cases hrefused
    · exact hbreak

/-- **One configuration in two forms.** The command of a forked run is Java, one argument for each
property, and the jar as agent and as program. The arguments are read back as the properties that an
entry point receives in the same order, but for the classpath, which gives way to its file. The
written file has the classpath of the entry point with line feeds as separators, as long as no entry
holds a line feed, and then its lines are the entries. -/
theorem same_configuration (config : BuildConfig) (java : String) (jar file : Path) :
    (∃ settings, (plan config java jar file).command
          = java :: (settings ++ ["-javaagent:" ++ jar.toString, "-jar", jar.toString]) ∧
        settings = (config.properties.map fun property => argumentOf (givenProperty file property)) ∧
        settings.map propertyOf
          = config.properties.map fun property => some (givenProperty file property)) ∧
    (∀ (point : Embedded.EntryPoint) (entry : Embedded.Entry) (w : World),
      point.entry w = .ok entry → ((Embedded.run point config).runIn w).2.calls
        = w.calls ++ [⟨entry.target, config.properties⟩]) ∧
    (∃ before after,
      config.properties = before ++ (BuildConfig.classpathKey, config.classpathText) :: after ∧
        ∀ property ∈ before ++ after, property.1 ≠ BuildConfig.classpathKey) ∧
    (∀ (directory : Option Path) (w : World),
      (∃ p w', (ClasspathFile.write (config.classpath.map Text.codePoints) directory).runIn w
          = (.ok p, w') ∧ w'.tree.read w'.cwd p = .ok (Text.utf8 config.classpathLines)) ∨
      (∃ e, ((ClasspathFile.write (config.classpath.map Text.codePoints) directory).runIn w).1
          = .error e ∧ (((ClasspathFile.make directory).runIn w).1 = .error e ∨
            ∃ b, Files.nextBreak w = some b))) ∧
    (Text.replaced '\n' ':' config.classpathLines = config.classpathText ↔
      ∀ entry ∈ config.classpath, '\n' ∉ entry.toList) ∧
    (config.classpath ≠ [] → (∀ entry ∈ config.classpath, '\n' ∉ entry.toList) →
      Text.parts '\n' config.classpathLines = config.classpath) := by
  have hsettings : config.properties.map (propertyArgument file)
      = config.properties.map fun property => argumentOf (givenProperty file property) :=
    List.map_congr_left fun property _ => propertyArgument_eq file property
  -- The settings of the command are the properties, with the classpath file for the classpath.
  refine ⟨⟨_, rfl, hsettings, map_propertyOf config file⟩, ?_, config.properties_classpath,
    read_write config, ?_, ?_⟩
  · intro point entry w h
    exact Embedded.calls_run h config
  · exact Text.replaced_intercalate_iff (by decide) config.classpath
  · intro hne hentries
    exact Text.parts_intercalate hentries hne

/-- A configuration whose classpath has an equals sign, an empty entry and a separator. -/
def unusualClasspath : BuildConfig where
  target := "1.7"
  bytecodeVersion := 51
  inputDir := ⟨.root, ["a=b"]⟩
  outputDir := ⟨.root, ["c"]⟩
  classpath := ["x=y", "", "p:q"]

/-- Its entries come back from the lines of its file, and an entry point is called with it. -/
theorem same_configuration_unusual :
    (∀ entry ∈ unusualClasspath.classpath, '\n' ∉ entry.toList) ∧
    Text.parts '\n' unusualClasspath.classpathLines = ["x=y", "", "p:q"] ∧
    ((Embedded.run (.loaded ⟨"tool:main", 0, none⟩) unusualClasspath).runIn
        { tree := .empty, cwd := [], environment := [] }).2.calls
      = [⟨"tool:main", unusualClasspath.properties⟩] := by
  have hfree : ∀ entry ∈ unusualClasspath.classpath, '\n' ∉ entry.toList := by decide
  obtain ⟨-, hcalls, -, -, -, hlines⟩ :=
    same_configuration unusualClasspath "java" ⟨.root, ["tool.jar"]⟩ ⟨.root, ["tmp", "f"]⟩
  exact ⟨hfree, hlines (by decide) hfree, hcalls (.loaded ⟨"tool:main", 0, none⟩) _ _ rfl⟩

end Forked

end Downlevel
