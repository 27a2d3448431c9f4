import Downlevel.Host
import Downlevel.Proofs.FileTree.Changes
/-!
# The environment around a detection

The host runtime is detected from an environment that is given. The environment of the world comes in
at one point: the command search takes its search path where the given environment has none. A given
environment that names a home or has a search path decides the host alone, and no other one does.
-/
namespace Downlevel.Host

variable {environment : List (String × String)}

/-- The search path of the world, for environments without one. -/
def ambientSearchPath (w : World) : String :=
  (w.named? "PATH").getD standardSearchPath

/-- An environment that leaves nothing open: it names a home, or has a search path. -/
def Decides (environment : List (String × String)) : Prop :=
  (∃ home, environment.lookup "JAVA_HOME" = some home ∧ home ≠ "") ∨
    ∃ path, environment.lookup "PATH" = some path

/-- The home is the one that is named, or else the one around the launcher that is found. -/
theorem home?_eq (w : World) (environment : List (String × String)) :
    home? w environment = match (environment.lookup "JAVA_HOME").filter (· ≠ "") with
      | some home => some (Path.ofString home)
      | none => home?.searched w environment := by
  unfold home?
  cases environment.lookup "JAVA_HOME" with
  | none => rfl
  | some home =>
    by_cases hempty : home = ""
    · rw [Option.filter_some, if_neg (by simpa using hempty)]
      exact if_pos hempty
    · rw [Option.filter_some, if_pos (by simpa using hempty)]
      exact if_neg hempty

/-- Two worlds with the same files find the same home for an environment that decides. -/
theorem home?_of_decides (h : Decides environment) (w : World) (ambient : List (String × String)) :
    home? { w with environment := ambient } environment = home? w environment := by
  rcases h with ⟨home, hhome, hne⟩ | ⟨path, hpath⟩
  · have hnamed : (environment.lookup "JAVA_HOME").filter (· ≠ "") = some home := by
      rw [hhome, Option.filter_some, if_pos (by simpa using hne)]
    rw [home?_eq, home?_eq, hnamed]
  · rw [home?_eq, home?_eq, home?.searched, home?.searched, hpath]
    rfl

/-- Nothing of the world's environment but its search path has a part in the home. -/
theorem home?_with_searchPath (w : World) (environment ambient : List (String × String)) :
    home? { w with environment := ambient } (environment ++ [("PATH", ambientSearchPath w)])
      = home? w environment := by
  have hhome : (environment ++ [("PATH", ambientSearchPath w)]).lookup "JAVA_HOME"
      = environment.lookup "JAVA_HOME" := by
    rw [List.lookup_append, List.lookup_cons]
    exact Option.or_none
  have hpath : (environment ++ [("PATH", ambientSearchPath w)]).lookup "PATH"
      = some ((environment.lookup "PATH").getD (ambientSearchPath w)) := by
    rw [List.lookup_append, List.lookup_cons]
    cases environment.lookup "PATH" <;> rfl
  have hsearched : home?.searched { w with environment := ambient }
      (environment ++ [("PATH", ambientSearchPath w)]) = home?.searched w environment := by
    rw [home?.searched, home?.searched, hpath]
    cases environment.lookup "PATH" with
    | none => rfl
    | some path => rfl
  rw [home?_eq, home?_eq, hhome, hsearched]

/-! ## A launcher on the search path of the world -/

/-- A machine whose own search path leads to a launcher. -/
def launcherMachine : World where
  tree := { nodes := [(["jdk"], .directory), (["jdk", "bin"], .directory),
    (["jdk", "bin", "java"], .file 1 true [])] }
  cwd := []
  environment := [("PATH", "/jdk/bin")]

theorem search?_launcherMachine :
    search? launcherMachine "java" "/jdk/bin" = some ⟨.root, ["jdk", "bin", "java"]⟩ := by
  have hparts : Text.parts ':' "/jdk/bin" = ["/jdk/bin"] := by decide
  have hlauncher : (Path.ofString "/jdk/bin").child "java" = ⟨.root, ["jdk", "bin", "java"]⟩ := by
    decide
  have hexecutable : launcherMachine.tree.isExecutable launcherMachine.cwd
      ⟨.root, ["jdk", "bin", "java"]⟩ = true := by
    have hplace : launcherMachine.tree.locate launcherMachine.cwd true
        ⟨.root, ["jdk", "bin", "java"]⟩ = .ok ["jdk", "bin", "java"] :=
      FileTree.locate_of_directories (by decide) (by decide) (by decide) (by decide) nofun
    rw [FileTree.isExecutable, FileTree.status_eq_ok.mpr ⟨_, hplace, rfl⟩]
  rw [search?, if_neg (by decide), hparts]
  simp only [List.findSome?_cons, hlauncher, hexecutable, if_true]

/-- An environment that does not decide leaves the host to the search path around it. -/
theorem detect_ne_of_not_decides (h : ¬ Decides environment) :
    detect { launcherMachine with environment := [("PATH", "")] } environment
      ≠ detect launcherMachine environment := by
  rw [Decides, not_or, not_exists, not_exists] at h
  obtain ⟨hhome, hpath⟩ := h
  have hunnamed : (environment.lookup "JAVA_HOME").filter (· ≠ "") = none := by
    rw [Option.filter_eq_none_iff]
    intro home hmem hne
    exact hhome home ⟨hmem, by simpa using hne⟩
  have hunset : environment.lookup "PATH" = none := Option.eq_none_iff_forall_ne_some.mpr hpath
  -- An environment without a search path is searched by that of the process.
  have hambient : (Option.or none (launcherMachine.named? "PATH")).getD standardSearchPath
      = "/jdk/bin" := rfl
  have hfound : (home? launcherMachine environment).isSome = true := by
    rw [home?_eq, hunnamed, home?.searched, hunset, hambient, search?_launcherMachine]
    rfl
  have hnone : home? { launcherMachine with environment := [("PATH", "")] } environment = none := by
    rw [home?_eq, hunnamed, home?.searched, hunset]
    rfl
  intro hsame
  have hhome : home? { launcherMachine with environment := [("PATH", "")] } environment
      = home? launcherMachine environment := congrArg home hsame
  rw [← hhome, hnone] at hfound
  cases hfound

/-! ## What decides the host -/

/-- **The environment of the world has influence through its search path alone.** With that search
path added to the given environment, where it stands last, the host is the same in every environment
around it. Without it, that is so for exactly those environments that name a home or have a search
path. -/
theorem detect_independent_iff (environment : List (String × String)) :
    (∀ (w : World) (ambient : List (String × String)),
      detect { w with environment := ambient } (environment ++ [("PATH", ambientSearchPath w)])
        = detect w environment) ∧
    ((∀ (w : World) (ambient : List (String × String)),
      detect { w with environment := ambient } environment = detect w environment) ↔
      Decides environment) := by
  refine ⟨?_, ?_, ?_⟩
  · intro w ambient
    rw [detect, detect, home?_with_searchPath]
    rfl
  · intro hsame
    refine Classical.byContradiction fun hopen => ?_
    exact detect_ne_of_not_decides hopen (hsame launcherMachine [("PATH", "")])
  · intro hdecides w ambient
    rw [detect, detect, home?_of_decides hdecides]
    rfl

/-- The empty environment is given, and yet the launcher is found on the search path of the world. -/
theorem detect_reads_ambient :
    ¬ ∀ (environment : List (String × String)) (w : World) (ambient : List (String × String)),
      detect { w with environment := ambient } environment = detect w environment := by
  have hopen : ¬ Decides [] := by
    rintro (⟨home, hhome, -⟩ | ⟨path, hpath⟩)
    · cases hhome
    · cases hpath
  intro hsame
  exact detect_ne_of_not_decides hopen (hsame [] launcherMachine [("PATH", "")])

end Downlevel.Host
