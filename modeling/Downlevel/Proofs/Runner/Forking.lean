import Downlevel.Parameters
import Downlevel.Proofs.Action
import Downlevel.Proofs.Version.Major
/-!
# Which runs are forked

A run is forked if that is asked for. Otherwise the release of the host runtime decides: one before
Java 8, or one that cannot be read off the version, forces the fork, and a warning says so.
-/
namespace Downlevel.Validation

/-- What is said when a fork is forced. -/
def forcedText : String :=
  "Host JVM is not running under Java 8 - forced to fork the process"

/-- Whatever is validated for a host is forked if it is asked for or the host is too old. The one
message is the warning that a fork is forced, told only where none was asked for. -/
def ForkedOn (host : Host) (tooOld : Bool) : Prop :=
  ∀ (parameters : Parameters) (project : Project) (goal : Goal) (w : World),
    parameters.target ∈ targetVersions.map Prod.fst →
    ∃ config,
      (validate parameters project host goal).runIn w
        = (.ok config, if parameters.fork = false ∧ tooOld = true then
            w.recorded logger .warning forcedText else w) ∧
      config.fork = (parameters.fork || tooOld)

/-- A target of the table is known. -/
theorem exists_targetVersion {target : String} (h : target ∈ targetVersions.map Prod.fst) :
    ∃ bytecode, targetVersion target = .ok bytecode := by
  have hall : ∀ t ∈ targetVersions.map Prod.fst, (targetVersions.lookup t).isSome = true := by
    decide
  obtain ⟨bytecode, hlookup⟩ := Option.isSome_iff_exists.mp (hall target h)
  exact ⟨bytecode, by rw [targetVersion, hlookup]⟩

/-- A fork is asked for, or it is forced on a host that is too old. -/
theorem runIn_resolveFork {host : Host} {tooOld : Bool}
    (h : host.isAtLeast (Int.ofNat requiredMajor) = .ok (!tooOld)) (fork : Bool) (w : World) :
    (resolveFork fork host).runIn w
      = (.ok (fork || tooOld), if fork = false ∧ tooOld = true then
          w.recorded logger .warning forcedText else w) := by
  unfold resolveFork
  rw [h]
  cases fork <;> cases tooOld <;> rfl

/-- The host decides on the fork, whatever the rest of the configuration. -/
theorem forkedOn {host : Host} {tooOld : Bool}
    (h : host.isAtLeast (Int.ofNat requiredMajor) = .ok (!tooOld)) : ForkedOn host tooOld := by
  intro parameters project goal w htarget
  obtain ⟨bytecode, hbytecode⟩ := exists_targetVersion htarget
  unfold validate
  rw [hbytecode, Action.runIn_bind_ok (Action.runIn_ofExcept _ w),
    Action.runIn_bind_ok (runIn_resolveFork h parameters.fork w)]
  exact ⟨_, rfl, rfl⟩

/-- A host with a release that can be read is too old if the release is one before Java 8. -/
theorem forkedOn_of_major? {host : Host} {version : String} {n : Nat}
    (hversion : host.version = some version) (hmajor : Version.major? version = .ok (some n)) :
    ForkedOn host (n < 8) := by
  apply forkedOn
  rw [Host.isAtLeast, Host.major?, hversion]
  dsimp only
  rw [hmajor]
  have hiff : Int.ofNat requiredMajor ≤ Int.ofNat n ↔ ¬ n < 8 := by
    show (8 : Int) ≤ (n : Int) ↔ ¬ n < 8
    omega
  rw [← decide_not, Except.ok.injEq, decide_eq_decide]
  exact hiff

/-- A host of which no release is known counts as too old. -/
theorem forkedOn_of_no_major {host : Host} (h : host.major? = .ok none) : ForkedOn host true := by
  apply forkedOn
  rw [Host.isAtLeast, h]
  rfl

variable {before rest : String} {n : Nat}

/-- **Both ways to write a Java version give the release, and the fork follows it.** With blanks in
front and anything but a digit behind, `1.n` and `n` are both read as the release `n`; only a one with
a point and a digit behind it is read the first way. On a host of such a version a run is forked, with
a warning if it is not asked for, exactly before Java 8. On a host without a version, or with one that
does not start with a digit, it always is. -/
theorem fork_follows_version (hb : before.toList.all Text.isBlank)
    (hn : (Nat.toDigits 10 n).length ≤ Numeral.digitLimit) (hr : Text.NoDigitFirst rest.toList) :
    Version.major? (before ++ "1." ++ toString n ++ rest) = .ok (some n) ∧
    (¬ (n = 1 ∧ Text.PointDigitFirst rest.toList) →
      Version.major? (before ++ toString n ++ rest) = .ok (some n)) ∧
    (∀ host : Host, host.version = some (before ++ "1." ++ toString n ++ rest) →
      ForkedOn host (n < 8)) ∧
    (∀ host : Host, ¬ (n = 1 ∧ Text.PointDigitFirst rest.toList) →
      host.version = some (before ++ toString n ++ rest) → ForkedOn host (n < 8)) ∧
    (∀ host : Host, host.version = none → ForkedOn host true) ∧
    (∀ (host : Host) (version : String), host.version = some version →
      Text.NoDigitFirst (Text.strip version.toList) → ForkedOn host true) := by
  have hlegacy := Version.major?_legacy hb hn hr
  -- A host forks exactly if its major version is below eight, or is not known.
  refine ⟨hlegacy, Version.major?_current hb hn hr, ?_, ?_, ?_, ?_⟩
  · intro host hversion
    exact forkedOn_of_major? hversion hlegacy
  · intro host hplain hversion
    exact forkedOn_of_major? hversion (Version.major?_current hb hn hr hplain)
  · intro host hversion
    apply forkedOn_of_no_major
    rw [Host.major?, hversion]
  · intro host version hversion hfirst
    apply forkedOn_of_no_major
    rw [Host.major?, hversion]
    exact Version.major?_of_noDigitFirst hfirst

/-- Java 7 in the older way to write, with blanks around and an update behind: the run is forked, and
the warning is told once. -/
theorem fork_follows_version_update :
    Version.major? "\t1.7.0_80 " = .ok (some 7) ∧
    ∃ config, (validate {} { baseDir := ⟨.root, ["app"]⟩ } { version := some "\t1.7.0_80 " }
        .main).runIn { tree := .empty, cwd := [], environment := [] }
      = (.ok config, World.recorded { tree := .empty, cwd := [], environment := [] } logger .warning
          forcedText) ∧
      config.fork = true := by
  have hread : "\t" ++ "1." ++ toString 7 ++ ".0_80 " = "\t1.7.0_80 " := by decide
  have hblank : ("\t").toList.all Text.isBlank := by decide
  have hseven : (Nat.toDigits 10 7).length ≤ Numeral.digitLimit := by decide +kernel
  have hupdate : Text.NoDigitFirst (".0_80 ").toList := by decide +kernel
  obtain ⟨hmajor, -, hhost, -⟩ := fork_follows_version hblank hseven hupdate
  rw [hread] at hmajor hhost
  exact ⟨hmajor, hhost { version := some "\t1.7.0_80 " } rfl {} _ .main _ (by decide)⟩

end Downlevel.Validation
