import Downlevel.Proofs.Resolution.Priority
import Downlevel.Proofs.World.Recording
/-!
# The home given as a parameter

A home given as a parameter is always used, and that a toolchain is passed over for it is told. The
search that decides what is told is another one than the resolution without a home, but both follow
the first runtime that the rules for toolchains find, so that a toolchain is passed over exactly when
it would have been used. A refusal to look for a launcher ends either resolution. The runtime depends
on the files by the launchers of the toolchains alone.
-/
namespace Downlevel.Resolution

variable (w : World) (c : Context)

/-! ## The first runtime that is found -/

/-- The search that decides what is told finds something exactly when the rules do. -/
theorem anyToolchain_eq (rules : List Rule) :
    anyToolchain w c rules = (firstFound w c rules).map Option.isSome := by
  unfold firstFound
  induction rules with
  | nil => rfl
  | cons r rest ih =>
    rw [anyToolchain, firstSome]
    rcases ofToolchainRule w c r with e | _ | found
    · rfl
    · exact ih
    · rfl

/-- A home given as a parameter has no influence on what the rules for toolchains find. -/
theorem firstFound_home (home : Option Path) (rules : List Rule) :
    firstFound w { c with java8Home := home } rules = firstFound w c rules := by
  have hrule : ofToolchainRule w { c with java8Home := home } = ofToolchainRule w c := by
    funext r
    cases r <;> rfl
  unfold firstFound
  rw [hrule]

/-! ## The resolution with a home -/

/-- What is told when a toolchain is passed over for a home. -/
def ignoredText (home : Path) : String :=
  "Toolchains are ignored, 'java8home' parameter is set to " ++ home.toString

/-- The runtime in a home that is given as a parameter. -/
def explicitRuntime (home : Path) (platform : Option String) : Candidate :=
  ⟨(javaExecutable home platform).toString, .explicit, none⟩

/-- With a home what is found is not used, and only told. -/
theorem runIn_resolve_with_home {home : Path} (h : c.java8Home = some home) :
    (resolve c chain).runIn w = match firstFound w c toolchainRules with
      | .error e => (.error e, w)
      | .ok found => (.ok (explicitRuntime home c.platform),
          if found.isSome then w.recorded logger .warning (ignoredText home) else w) := by
  have hrule : (ofRule c .explicitHome).runIn w = match firstFound w c toolchainRules with
      | .error e => (.error e, w)
      | .ok found => (.ok (some (explicitRuntime home c.platform)),
          if found.isSome then w.recorded logger .warning (ignoredText home) else w) := by
    show (ofExplicitHome c).runIn w = _
    unfold ofExplicitHome
    rw [h]
    dsimp only
    rw [Action.runIn_bind_ok (Action.runIn_get w), Action.runIn_bind, Action.runIn_ofExcept,
      anyToolchain_eq]
    rcases firstFound w c toolchainRules with e | _ | found <;> rfl
  show (ofRule c .explicitHome >>= _).runIn w = _
  rw [Action.runIn_bind, hrule]
  rcases firstFound w c toolchainRules with e | _ | found <;> rfl

/-! ## What the search depends on -/

/-- Toolchains that are found in a registry are in it. -/
theorem mem_of_mem_findIn {type : String} {requirements : List (String × String)}
    {ts found : List Toolchain} (h : Registry.findIn type requirements ts = .ok found) :
    ∀ t ∈ found, t ∈ ts := by
  induction ts generalizing found with
  | nil =>
    cases h
    exact fun t ht => ht
  | cons u ts ih =>
    intro t ht
    rw [Registry.findIn] at h
    split at h
    · split at h
      · cases h
      · split at h
        · cases h
        · rename_i met _ _ more hmore
          cases h
          split at ht
          · rcases List.mem_cons.mp ht with rfl | ht
            · exact List.mem_cons_self
            · exact List.mem_cons_of_mem u (ih hmore t ht)
          · exact List.mem_cons_of_mem u (ih hmore t ht)
    · exact List.mem_cons_of_mem u (ih h t ht)

/-- A search depends on what it finds for each. -/
theorem firstSome_congr {α β : Type} {f g : α → Except Failure (Option β)} {xs : List α}
    (h : ∀ x ∈ xs, f x = g x) : firstSome f xs = firstSome g xs := by
  induction xs with
  | nil => rfl
  | cons x xs ih =>
    rw [firstSome, firstSome, h x List.mem_cons_self,
      ih fun y hy => h y (List.mem_cons_of_mem x hy)]

/-- The rules find the same in two worlds that have the launchers of the same toolchains. -/
theorem firstFound_congr {w w' : World} {c : Context}
    (h : ∀ t, IsManaged c.toolchains t → hasLauncher w' c.platform t = hasLauncher w c.platform t)
    (rules : List Rule) : firstFound w' c rules = firstFound w c rules := by
  have hof (source : RuntimeSource) (t : Toolchain) (ht : IsManaged c.toolchains t) :
      ofToolchain w' t source c.platform = ofToolchain w t source c.platform := by
    have hlook := h t ht
    rw [ofToolchain_eq, ofToolchain_eq]
    unfold isDecisive runtimeIn
    rw [hlook]
  -- Each rule looks only for launchers of managed toolchains.
  have hrule : ∀ r, ofToolchainRule w' c r = ofToolchainRule w c r := by
    intro r
    cases r with
    | explicitHome => rfl
    | managed version =>
      rw [ofToolchainRule, ofToolchainRule, managed, managed]
      cases hfind : c.toolchains.find jdk [("version", version)] with
      | error e => rfl
      | ok ts => exact firstSome_congr fun t ht => hof _ t (Or.inl (mem_of_mem_findIn hfind t ht))
    | buildContext =>
      exact firstSome_congr fun t ht => hof _ t (Or.inr (Option.mem_toList.mp ht))
  exact firstSome_congr fun r _ => hrule r

/-- So the resolution gives the same in them. -/
theorem runIn_resolve_congr {w w' : World} {c : Context}
    (h : ∀ t, IsManaged c.toolchains t → hasLauncher w' c.platform t = hasLauncher w c.platform t) :
    ((resolve c chain).runIn w').1 = ((resolve c chain).runIn w).1 := by
  have hfound := firstFound_congr h toolchainRules
  cases hhome : c.java8Home with
  | none =>
    rw [runIn_resolve_without_home w' c hhome, runIn_resolve_without_home w c hhome, hfound]
    rcases firstFound w c toolchainRules with e | _ | found <;> rfl
  | some home =>
    rw [runIn_resolve_with_home w' c hhome, runIn_resolve_with_home w c hhome, hfound]
    rcases firstFound w c toolchainRules with e | found <;> rfl

/-- A launcher is there or not whatever is recorded. -/
theorem hasLauncher_of_onlyRecorded {w w' : World} (h : w.OnlyRecorded w')
    (platform : Option String) (t : Toolchain) :
    hasLauncher w' platform t = hasLauncher w platform t := by
  unfold hasLauncher
  rw [h.cwd, h.grown.sameShape.isFile]

/-! ## Precedence -/

/-- **A home given as a parameter.** With versions that can be read, the resolution gives the runtime
in the home and no toolchain. If the resolution without the home gives a toolchain, then it is told
once that toolchains are passed over; otherwise nothing at all is recorded. But where the resolution
without the home fails, for a refused look at a launcher, the one with the home fails alike. -/
theorem resolve_of_home (home : Path) (hread : c.toolchains.Readable) :
    ((∃ found w₀ w₁,
      (resolve { c with java8Home := none } chain).runIn w = (.ok found, w₀) ∧
      (resolve { c with java8Home := some home } chain).runIn w
        = (.ok ⟨(javaExecutable home c.platform).toString, .explicit, none⟩, w₁) ∧
      ((found.source = .toolchain ∨ found.source = .buildContext) →
        w₁ = w.recorded logger .warning (ignoredText home) ∧
        (w.log.records .warning = true →
          w₁.journal = w.journal ++ [(Level.warning.name, ignoredText home)])) ∧
      (¬ (found.source = .toolchain ∨ found.source = .buildContext) → w₁ = w)) ∨
    ∃ e t errno,
      (resolve { c with java8Home := none } chain).runIn w = (.error e, w) ∧
      (resolve { c with java8Home := some home } chain).runIn w = (.error e, w) ∧
      IsManaged c.toolchains t ∧ hasLauncher w c.platform t = .error errno ∧
      e = Files.failure errno (javaExecutable t.home c.platform)) ∧
    ((∀ t, IsManaged c.toolchains t → ∃ found, hasLauncher w c.platform t = .ok found) →
      ((resolve { c with java8Home := some home } chain).runIn w).1
        = .ok ⟨(javaExecutable home c.platform).toString, .explicit, none⟩) := by
  have hwithout := runIn_resolve_without_home w { c with java8Home := none } rfl
  have hwith := runIn_resolve_with_home w { c with java8Home := some home } rfl
  rw [firstFound_home] at hwithout hwith
  have hpreferred := preferred_eq w c hread
  rw [hwithout, hwith]
  cases hfound : firstFound w c toolchainRules with
  | error e =>
    rw [hfound] at hpreferred
    -- A look that is refused fails the chain before the home is taken.
    obtain ⟨t, errno, ht, herrno, he⟩ := refused_of_preferred w c hpreferred
    refine ⟨Or.inr ⟨e, t, errno, rfl, rfl, ht, herrno, he⟩, fun hlooks => ?_⟩
    cases hpreferred.symm.trans (preferred_of_no_refusal w c hlooks)
  | ok o =>
    refine ⟨Or.inl ?_, fun _ => rfl⟩
    -- Only where a toolchain would have been taken is it said that it is ignored.
    cases o with
    | none =>
      refine ⟨_, _, _, rfl, rfl, ?_, fun _ => rfl⟩
      intro hsource
      rw [(ofHost_source _).1] at hsource
      rcases hsource with h | h <;> cases h
    | some found =>
      obtain ⟨source, t, hsource, rfl⟩ := firstFound_eq_ok w c hfound
      refine ⟨_, _, _, rfl, rfl, fun _ => ⟨rfl, ?_⟩, fun h => absurd hsource h⟩
      exact World.journal_recorded (by decide +kernel)

/-- Toolchains are passed over for a home, although one of them would have been used, and it is told
for which home. -/
theorem resolve_of_home_mixed :
    mixedToolchains.toolchains.Readable ∧
      ((resolve { mixedToolchains with java8Home := some ⟨.root, ["h"]⟩ } chain).runIn
          twoInstallations).1 = .ok ⟨"/h/bin/java", .explicit, none⟩ ∧
      ((resolve { mixedToolchains with java8Home := some ⟨.root, ["h"]⟩ } chain).runIn
          twoInstallations).2.journal
        = [("WARNING", "Toolchains are ignored, 'java8home' parameter is set to /h")] := by
  refine ⟨readable_mixedToolchains, ?_⟩
  have hlauncher : (javaExecutable ⟨.root, ["h"]⟩ none).toString = "/h/bin/java" := by cbv
  have htext : ignoredText ⟨.root, ["h"]⟩
      = "Toolchains are ignored, 'java8home' parameter is set to /h" := by decide +kernel
  have hpreferred := runIn_resolve_chain twoInstallations mixedToolchains rfl readable_mixedToolchains
  rw [preferred_mixedToolchains] at hpreferred
  obtain ⟨hgiven | hrefused, -⟩ :=
    resolve_of_home twoInstallations mixedToolchains ⟨.root, ["h"]⟩ readable_mixedToolchains
  · obtain ⟨found, w₀, w₁, hwithout, hwith, hignored, -⟩ := hgiven
    have hfound : found.source = .toolchain := by
      cases hwithout.symm.trans hpreferred
      rfl
    obtain ⟨-, hjournal⟩ := hignored (Or.inl hfound)
    rw [htext] at hjournal
    rw [hwith]
    refine ⟨?_, hjournal rfl⟩
    rw [← hlauncher]
    rfl
  · obtain ⟨e, t, errno, hwithout, -⟩ := hrefused
    cases hwithout.symm.trans hpreferred

/-- A look that is refused ends the resolution with a home too. -/
theorem runIn_resolve_of_home_longNamed {n : Nat} {home : Path} {e : Failure}
    (he : firstFound bareMachine (longNamedToolchains n) toolchainRules = .error e) :
    (resolve { longNamedToolchains n with java8Home := some home } chain).runIn bareMachine
      = (.error e, bareMachine) := by
  rw [runIn_resolve_with_home bareMachine _ rfl, firstFound_home, he]

/-- The runtime in a home is not always given: the look for the launcher of a toolchain that is passed
over may be refused. -/
theorem resolve_of_home_longNamed :
    (longNamedToolchains 300).toolchains.Readable ∧
      ∃ e, (resolve { longNamedToolchains 300 with java8Home := some ⟨.root, ["j8"]⟩ } chain).runIn
        bareMachine = (.error e, bareMachine) := by
  obtain ⟨e, he, -⟩ := firstFound_longNamed (n := 300) (by decide) (by decide)
  exact ⟨readable_longNamedToolchains 300, e, runIn_resolve_of_home_longNamed he⟩

end Downlevel.Resolution
