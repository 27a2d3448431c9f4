import Downlevel.Artifact
import Downlevel.Proofs.Text.Occurrence
/-!
# Messages of failed retrievals

A failure is taken for an artifact that is yet to be published if its message has certain words in it.
A message of a directory of artifacts is made of fixed words, the version, and paths. The words stand
apart from those that are looked for, so they are in the message only if they are in the version, in
the root of the directory or in the build directory. A message of a build tool is made of fixed words,
the version, and what the tool printed, so they are in it only if they are in the version or were
printed.
-/
namespace Downlevel.Artifact

/-- A message says it if the mark occurs in it. -/
theorem saysNotPackaged_iff {message : String} :
    saysNotPackaged message = true ↔ notPackagedMark.toList <:+: message.toList :=
  Text.occursIn_iff _ _

/-- A message does not say it if the mark does not occur in it. -/
theorem saysNotPackaged_eq_false_iff {message : String} :
    saysNotPackaged message = false ↔ ¬ notPackagedMark.toList <:+: message.toList := by
  rw [← saysNotPackaged_iff, Bool.not_eq_true]

/-! ## Fixed words -/

theorem mark_ne_nil : notPackagedMark.toList ≠ [] := by decide

/-- The mark has no slash, so it lies on one side of each. -/
theorem apart_slash : Text.Apart notPackagedMark.toList ['/'] := by decide +kernel

/-- The mark has no dot, so it lies on one side of each. -/
theorem apart_dot : Text.Apart notPackagedMark.toList ['.'] := by decide +kernel

variable {root build : Path} {version : String}

/-- What stands before the version in the coordinates of Retrolambda. -/
def beforeVersion : String := "com.kohlschutter.retrolambda:retrolambda:"

/-- The text of the coordinates ends in the version. -/
theorem toString_retrolambda (version : String) :
    (Coordinates.retrolambda version).toString = beforeVersion ++ version := by
  have hfixed : "com.kohlschutter.retrolambda" ++ ":" ++ "retrolambda" ++ ":" = beforeVersion := by
    decide +kernel
  rw [← hfixed]
  rfl

/-- A message about a version of Retrolambda. -/
theorem toList_aboutVersion (first second version rest : String) :
    (first ++ (Coordinates.retrolambda version).toString ++ second ++ rest).toList
      = (first ++ beforeVersion).toList ++ version.toList ++ second.toList ++ rest.toList := by
  rw [toString_retrolambda, ← String.append_assoc, Text.toList_four]

/-! ## An artifact that is missing -/

/-- What is said of an artifact that is not in a directory. -/
def notFoundText (root : Path) (c : Coordinates) : String :=
  "Artifact " ++ c.toString ++ " not found in local repository " ++ root.toString

/-- The text about a missing artifact says it only if the root or the version does. -/
theorem saysNotPackaged_notFoundText (hroot : saysNotPackaged root.toString = false)
    (hversion : saysNotPackaged version = false) :
    saysNotPackaged (notFoundText root (.retrolambda version)) = false := by
  have hbefore : Text.Apart notPackagedMark.toList ("Artifact " ++ beforeVersion).toList := by
    decide +kernel
  have hbetween : Text.Apart notPackagedMark.toList
      (" not found in local repository ").toList := by decide +kernel
  have htext : (notFoundText root (.retrolambda version)).toList
      = ("Artifact " ++ beforeVersion).toList ++ version.toList
        ++ (" not found in local repository ").toList ++ root.toString.toList :=
    toList_aboutVersion _ _ _ _
  rw [saysNotPackaged_eq_false_iff] at *
  rw [htext]
  intro hin
  rcases Text.infix_of_words hbefore hbetween mark_ne_nil hin with h | h
  · exact hversion h
  · exact hroot h

/-! ## A file that could not be copied -/

/-- What is said of a file that could not be copied. -/
def notCopiedText (source destination : Path) : String :=
  "Failed to copy " ++ source.toString ++ " to " ++ destination.toString

/-- What is looked for is not in the path of an artifact. -/
theorem not_infix_pathIn (hroot : saysNotPackaged root.toString = false)
    (hversion : saysNotPackaged version = false) : ¬ notPackagedMark.toList
      <:+: ((Coordinates.retrolambda version).pathIn root).toString.toList := by
  have hgroup : Text.parts '.' "com.kohlschutter.retrolambda"
      = ["com", "kohlschutter", "retrolambda"] := by decide
  have hpath : (Coordinates.retrolambda version).pathIn root
      = (["com", "kohlschutter", "retrolambda", "retrolambda"]
          ++ [version, "retrolambda-" ++ version ++ ".jar"]).foldl Path.child root := by
    rw [Coordinates.pathIn, Coordinates.retrolambda, hgroup]
    rfl
  have hfixed : ∀ s ∈ ["com", "kohlschutter", "retrolambda", "retrolambda"],
      ¬ notPackagedMark.toList <:+: s.toList := by decide +kernel
  have hbefore : Text.Apart notPackagedMark.toList ("retrolambda-").toList := by decide +kernel
  have hafter : Text.Apart notPackagedMark.toList (".jar").toList := by decide +kernel
  rw [saysNotPackaged_eq_false_iff] at hroot hversion
  rw [hpath]
  intro hin
  -- A mark in the path would be in one of its names, as no separator can be part of it.
  rcases Path.infix_of_foldl_child apart_slash apart_dot mark_ne_nil hin with h | ⟨s, hs, h⟩
  · exact hroot h
  rcases List.mem_append.mp hs with hs | hs
  · exact hfixed s hs h
  rcases List.mem_pair.mp hs with rfl | rfl
  · exact hversion h
  · -- The name of the file has the version in it, and words that cannot overlap the mark.
    have hfile : notPackagedMark.toList
        <:+: ("retrolambda-").toList ++ version.toList ++ (".jar").toList ++ [] := by
      simpa using h
    rcases Text.infix_of_words hbefore hafter mark_ne_nil hfile with h | h
    · exact hversion h
    · exact mark_ne_nil (List.eq_nil_of_infix_nil h)

/-- Nor is it in the path of the jar. -/
theorem not_infix_jarPath (hbuild : saysNotPackaged build.toString = false) (r : Repository) :
    ¬ notPackagedMark.toList <:+: (Acquirer.jarPath ⟨r, build⟩).toString.toList := by
  have hjar : Acquirer.jarPath ⟨r, build⟩
      = ["retrolambda", "retrolambda.jar"].foldl Path.child build := rfl
  have hfixed : ∀ s ∈ ["retrolambda", "retrolambda.jar"],
      ¬ notPackagedMark.toList <:+: s.toList := by decide +kernel
  rw [saysNotPackaged_eq_false_iff] at hbuild
  rw [hjar]
  intro hin
  rcases Path.infix_of_foldl_child apart_slash apart_dot mark_ne_nil hin with h | ⟨s, hs, h⟩
  · exact hbuild h
  · exact hfixed s hs h

/-- The text about a failed copying says it only if one of its parts does. -/
theorem saysNotPackaged_notCopiedText (hroot : saysNotPackaged root.toString = false)
    (hversion : saysNotPackaged version = false) (hbuild : saysNotPackaged build.toString = false)
    (r : Repository) :
    saysNotPackaged (notCopiedText ((Coordinates.retrolambda version).pathIn root)
      (Acquirer.jarPath ⟨r, build⟩)) = false := by
  have hbefore : Text.Apart notPackagedMark.toList ("Failed to copy ").toList := by decide +kernel
  have hbetween : Text.Apart notPackagedMark.toList (" to ").toList := by decide +kernel
  have htext (source destination : Path) : (notCopiedText source destination).toList
      = ("Failed to copy ").toList ++ source.toString.toList ++ (" to ").toList
        ++ destination.toString.toList := Text.toList_four _ _ _ _
  rw [saysNotPackaged_eq_false_iff, htext]
  intro hin
  rcases Text.infix_of_words hbefore hbetween mark_ne_nil hin with h | h
  · exact not_infix_pathIn hroot hversion h
  · exact not_infix_jarPath hbuild r h

/-! ## A build tool that failed -/

theorem bare_mark : Text.Bare notPackagedMark.toList := by decide +kernel

/-- What is said of a build tool that failed. -/
def toolFailedText (c : Coordinates) (outcome : Process.Outcome) : String :=
  "Failed to copy " ++ c.toString ++ ": " ++ BuildToolCopier.complaint outcome

/-- What is said of a build tool that was not started. -/
def notStartedText (executable reason : String) : String :=
  "Failed to run " ++ executable ++ ": " ++ reason

/-- A number is written without letters. -/
theorem letter_not_mem_toString (n : Int) : 'k' ∉ (toString n).toList := by
  have hdigits : ∀ m : Nat, 'k' ∉ (toString m).toList := by
    intro m hk
    rw [Nat.toString_eq_ofList_toDigits, String.toList_ofList] at hk
    exact absurd (Nat.isDigit_of_mem_toDigits (by omega) (by omega) hk) (by decide)
  cases n with
  | ofNat m => exact hdigits m
  | negSucc m =>
    intro hk
    rw [show toString (Int.negSucc m) = "-" ++ toString (m + 1) from rfl, String.toList_append] at hk
    rcases List.mem_append.mp hk with h | h
    · exact absurd h (by decide)
    · exact hdigits (m + 1) h

/-- What is looked for is not in the words for a return code. -/
theorem not_infix_exitCode (n : Int) :
    ¬ notPackagedMark.toList <:+: ("exit code " ++ toString n).toList := by
  intro hin
  have hk : 'k' ∈ ("exit code " ++ toString n).toList := hin.subset (by decide)
  rw [String.toList_append] at hk
  rcases List.mem_append.mp hk with h | h
  · exact absurd h (by decide)
  · exact letter_not_mem_toString n h

/-- What is looked for is in the complaint of a tool exactly if the tool printed it, wherever the one
stream ends and the other begins. -/
theorem infix_complaint_iff (outcome : Process.Outcome) :
    notPackagedMark.toList <:+: (BuildToolCopier.complaint outcome).toList ↔
      notPackagedMark.toList <:+: outcome.stdout.toList ++ outcome.stderr.toList := by
  rw [← String.toList_append,
    ← Text.infix_strip_iff bare_mark mark_ne_nil (outcome.stdout ++ outcome.stderr).toList]
  unfold BuildToolCopier.complaint Text.trimmed
  dsimp only
  split
  · rename_i hblank
    have hnil : Text.strip (outcome.stdout ++ outcome.stderr).toList = [] := by
      rw [← String.toList_ofList (l := Text.strip _), hblank]
      rfl
    rw [hnil, List.infix_nil]
    exact iff_of_false (not_infix_exitCode _) mark_ne_nil
  · rw [String.toList_ofList]

/-- The text about a failed tool says it exactly if the tool did. -/
theorem saysNotPackaged_toolFailedText (hversion : saysNotPackaged version = false)
    (outcome : Process.Outcome) :
    saysNotPackaged (toolFailedText (.retrolambda version) outcome) = true ↔
      notPackagedMark.toList <:+: outcome.stdout.toList ++ outcome.stderr.toList := by
  have hbefore : Text.Apart notPackagedMark.toList ("Failed to copy " ++ beforeVersion).toList := by
    decide +kernel
  have hbetween : Text.Apart notPackagedMark.toList (": ").toList := by decide +kernel
  have htext : (toolFailedText (.retrolambda version) outcome).toList
      = ("Failed to copy " ++ beforeVersion).toList ++ version.toList ++ (": ").toList
        ++ (BuildToolCopier.complaint outcome).toList := toList_aboutVersion _ _ _ _
  rw [saysNotPackaged_eq_false_iff] at hversion
  rw [saysNotPackaged_iff, htext, ← infix_complaint_iff]
  constructor
  · intro hin
    exact (Text.infix_of_words hbefore hbetween mark_ne_nil hin).resolve_left hversion
  · exact fun hin => hin.trans (List.suffix_append _ _).isInfix

/-- The text about a tool that does not start says it only if the tool or the reason does. -/
theorem saysNotPackaged_notStartedText {executable reason : String}
    (hexecutable : saysNotPackaged executable = false) (hreason : saysNotPackaged reason = false) :
    saysNotPackaged (notStartedText executable reason) = false := by
  have hbefore : Text.Apart notPackagedMark.toList ("Failed to run ").toList := by decide +kernel
  have hbetween : Text.Apart notPackagedMark.toList (": ").toList := by decide +kernel
  have htext : (notStartedText executable reason).toList
      = ("Failed to run ").toList ++ executable.toList ++ (": ").toList ++ reason.toList :=
    Text.toList_four _ _ _ _
  rw [saysNotPackaged_eq_false_iff] at *
  rw [htext]
  intro hin
  rcases Text.infix_of_words hbefore hbetween mark_ne_nil hin with h | h
  · exact hexecutable h
  · exact hreason h

end Downlevel.Artifact
