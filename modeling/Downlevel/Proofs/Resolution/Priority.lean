import Mathlib.Data.List.Find
import Downlevel.Proofs.Action
import Downlevel.Proofs.FileTree.Changes
import Downlevel.Proofs.Registry.Find
import Downlevel.Proofs.Text.Encoding
import Downlevel.Proofs.Text.Paths
import Downlevel.Resolution
/-!
# The order of the rules

Without a home given as a parameter the resolution of the Java runtime has a closed form: the first
toolchain that serves version 1.8, or else the first that serves version 8, or else the toolchain of
the build, or else the host runtime. All other toolchains are without influence on it, and one
record names the toolchain if there is one. A look for a launcher that the system refuses ends the
resolution with that refusal, if no launcher was found before.
-/
namespace Downlevel.Resolution

variable (w : World) (c : Context)

/-! ## Toolchains that serve -/

/-- Whether a look finds the Java launcher of a toolchain as a file. -/
def hasLauncher (platform : Option String) (t : Toolchain) : Except Errno Bool :=
  w.tree.isFile w.cwd (javaExecutable t.home platform)

/-- Whether the look for the launcher of a toolchain ends the search: it finds it, or it is refused. -/
def isDecisive (platform : Option String) (t : Toolchain) : Bool :=
  match hasLauncher w platform t with
  | .ok found => found
  | .error _ => true

/-- Whether a toolchain has the type and provides the version that are asked for. -/
def isOffered (version : String) (t : Toolchain) : Bool :=
  t.type = jdk && t.offers version

/-- Whether a toolchain ends the search for a version. -/
def decides (platform : Option String) (version : String) (t : Toolchain) : Bool :=
  isOffered version t && isDecisive w platform t

/-- Whether a toolchain ends the search for one of the versions that are looked for. -/
def isRelevant (platform : Option String) (t : Toolchain) : Bool :=
  decides w platform "1.8" t || decides w platform "8" t

/-- The runtime in a toolchain. -/
def runtimeOf (platform : Option String) (source : RuntimeSource) (t : Toolchain) : Candidate :=
  ⟨(javaExecutable t.home platform).toString, source, some t.label⟩

/-- The runtime in a toolchain that ends the search, or the refusal to look for its launcher. -/
def runtimeIn (platform : Option String) (source : RuntimeSource) (t : Toolchain) :
    Except Failure Candidate :=
  match hasLauncher w platform t with
  | .ok _ => .ok (runtimeOf platform source t)
  | .error e => .error (Files.failure e (javaExecutable t.home platform))

/-- The runtime that has priority, or the refusal that ends the search before it. -/
def preferred : Except Failure Candidate :=
  match c.toolchains.toolchains.find? (decides w c.platform "1.8") with
  | some t => runtimeIn w c.platform .toolchain t
  | none =>
    match c.toolchains.toolchains.find? (decides w c.platform "8") with
    | some t => runtimeIn w c.platform .toolchain t
    | none =>
      match (c.toolchains.forBuild jdk).filter (isDecisive w c.platform) with
      | some t => runtimeIn w c.platform .buildContext t
      | none =>
        match c.host.home with
        | some home => .ok ⟨(javaExecutable home c.platform).toString, .host, none⟩
        | none => .ok ⟨"java", .host, none⟩

/-! ## The rules in closed form -/

/-- A toolchain is taken if it decides. -/
theorem ofToolchain_eq (t : Toolchain) (source : RuntimeSource) (platform : Option String) :
    ofToolchain w t source platform
      = if isDecisive w platform t then (runtimeIn w platform source t).map some else .ok none := by
  have hpath : t.toolPath "java" platform = javaExecutable t.home platform := by
    unfold Toolchain.toolPath
    exact if_pos rfl
  unfold ofToolchain isDecisive runtimeIn runtimeOf hasLauncher Toolchain.findTool
  rw [hpath]
  dsimp only
  generalize javaExecutable t.home platform = java
  rcases w.tree.isFile w.cwd java with e | found
  · rfl
  · cases found <;> rfl

section

variable {α β : Type} {search : α → Except Failure (Option β)} {x : α}

/-- A search goes on where nothing is found. -/
theorem firstSome_of_none (h : search x = .ok none) (rest : List α) :
    firstSome search (x :: rest) = firstSome search rest := by
  rw [firstSome, h]

/-- A search ends where something is found, or where it fails. -/
theorem firstSome_of_some {r : Except Failure β} (h : search x = r.map some) (rest : List α) :
    firstSome search (x :: rest) = r.map some := by
  rw [firstSome, h]
  cases r <;> rfl

end

/-- Of some toolchains the first that ends the search is taken. -/
theorem firstOf_eq (source : RuntimeSource) (platform : Option String) (ts : List Toolchain) :
    firstOf w source platform ts = match ts.find? (isDecisive w platform) with
      | some t => (runtimeIn w platform source t).map some
      | none => .ok none := by
  unfold firstOf
  generalize hsearch : (fun t => ofToolchain w t source platform) = search
  induction ts with
  | nil => rfl
  | cons t ts ih =>
    have hfirst : search t = _ := (congrFun hsearch t).symm.trans (ofToolchain_eq w t source platform)
    rw [List.find?_cons]
    cases hdecisive : isDecisive w platform t with
    | false =>
      rw [hdecisive, if_neg Bool.false_ne_true] at hfirst
      rw [firstSome_of_none hfirst]
      exact ih
    | true =>
      rw [hdecisive, if_pos rfl] at hfirst
      rw [firstSome_of_some hfirst]

/-- A managed toolchain is the first in the order of the registry that ends the search for the
version. -/
theorem managed_eq_find (version : String) (h : c.toolchains.Readable)
    (hv : Version.Readable version.toList) :
    managed w c version = match c.toolchains.toolchains.find? (decides w c.platform version) with
      | some t => (runtimeIn w c.platform .toolchain t).map some
      | none => .ok none := by
  have hfind := Registry.find_eq_filter h jdk [("version", version)] (by
    intro v hmem
    rw [List.mem_singleton, Prod.mk.injEq] at hmem
    rw [hmem.2]
    exact hv)
  have hdecides : (fun t => decide (Toolchain.fits jdk [("version", version)] t = true ∧
      isDecisive w c.platform t = true)) = decides w c.platform version := by
    funext t
    rw [Bool.decide_and, Bool.decide_coe, Bool.decide_coe, Toolchain.fits_version, decides, isOffered]
  unfold managed
  rw [hfind]
  dsimp only
  rw [firstOf_eq, List.find?_filter, hdecides]

/-- The toolchain of the build is taken if it decides. -/
theorem ofBuildContext_eq :
    ofBuildContext w c = match (c.toolchains.forBuild jdk).filter (isDecisive w c.platform) with
      | some t => (runtimeIn w c.platform .buildContext t).map some
      | none => .ok none := by
  rw [ofBuildContext, firstOf_eq]
  cases c.toolchains.forBuild jdk with
  | none => rfl
  | some t =>
    rw [Option.toList_some, List.find?_singleton, Option.filter_some]

/-- A rule for toolchains looks at the world and leaves it as it is. -/
theorem runIn_ofRule (r : Rule) (h : r ≠ .explicitHome) :
    (ofRule c r).runIn w = (ofToolchainRule w c r, w) := by
  have hbody : ofRule c r = get >>= fun w => Action.ofExcept (ofToolchainRule w c r) := by
    cases r with
    | explicitHome => exact absurd rfl h
    | managed version => rfl
    | buildContext => rfl
  rw [hbody, Action.runIn_bind_ok (Action.runIn_get w), Action.runIn_ofExcept]

/-- Without a given home its rule finds nothing. -/
theorem runIn_ofRule_explicitHome (h : c.java8Home = none) :
    (ofRule c .explicitHome).runIn w = (.ok none, w) := by
  show (ofExplicitHome c).runIn w = _
  unfold ofExplicitHome
  rw [h]
  rfl

/-! ## The first runtime that is found -/

/-- The runtime that the first successful rule for toolchains finds. -/
def firstFound (rules : List Rule) : Except Failure (Option Candidate) :=
  firstSome (ofToolchainRule w c) rules

/-- The rules for toolchains find the runtime that has priority, unless it is the host runtime. -/
theorem preferred_eq (hread : c.toolchains.Readable) :
    preferred w c = match firstFound w c toolchainRules with
      | .error e => .error e
      | .ok (some found) => .ok found
      | .ok none => .ok (ofHost c) := by
  have hmanaged (version : String) (h : version.toList.length ≤ Numeral.digitLimit) :
      ofToolchainRule w c (.managed version) = _ :=
    managed_eq_find w c version hread (Version.readable_of_length_le h)
  have hfirst := hmanaged "1.8" (by decide)
  have hsecond := hmanaged "8" (by decide)
  have hthird : ofToolchainRule w c .buildContext = _ := ofBuildContext_eq w c
  have hfound (r : Except Failure Candidate) : r = match r.map some with
      | .error e => .error e
      | .ok (some found) => .ok found
      | .ok none => .ok (ofHost c) := by
    cases r <;> rfl
  unfold preferred firstFound toolchainRules
  -- Each rule that finds nothing leaves the search to the next one.
  cases h18 : c.toolchains.toolchains.find? (decides w c.platform "1.8") with
  | some t =>
    rw [h18] at hfirst
    rw [firstSome_of_some hfirst]
    exact hfound _
  | none =>
    rw [h18] at hfirst
    rw [firstSome_of_none hfirst]
    cases h8 : c.toolchains.toolchains.find? (decides w c.platform "8") with
    | some t =>
      rw [h8] at hsecond
      rw [firstSome_of_some hsecond]
      exact hfound _
    | none =>
      rw [h8] at hsecond
      rw [firstSome_of_none hsecond]
      cases hb : (c.toolchains.forBuild jdk).filter (isDecisive w c.platform) with
      | some t =>
        rw [hb] at hthird
        rw [firstSome_of_some hthird]
        exact hfound _
      | none =>
        rw [hb] at hthird
        rw [firstSome_of_none hthird]
        dsimp only [firstSome]
        unfold ofHost
        cases c.host.home <;> rfl

/-- What is found among toolchains is the runtime of one of them. -/
theorem firstOf_eq_some {source : RuntimeSource} {platform : Option String} {ts : List Toolchain}
    {found : Candidate} (h : firstOf w source platform ts = .ok (some found)) :
    ∃ t, found = runtimeOf platform source t := by
  rw [firstOf_eq] at h
  split at h
  · rename_i t _
    refine ⟨t, ?_⟩
    unfold runtimeIn at h
    split at h
    · exact (Option.some.inj (Except.ok.inj h)).symm
    · cases h
  · cases h

/-- What a rule for toolchains finds is the runtime in a toolchain, and its source says so. -/
theorem ofToolchainRule_eq_ok {r : Rule} {found : Candidate}
    (h : ofToolchainRule w c r = .ok (some found)) :
    ∃ source t, (source = .toolchain ∨ source = .buildContext) ∧
      found = runtimeOf c.platform source t := by
  cases r with
  | explicitHome => cases h
  | managed version =>
    rw [ofToolchainRule, managed] at h
    split at h
    · cases h
    · obtain ⟨t, ht⟩ := firstOf_eq_some w h
      exact ⟨.toolchain, t, Or.inl rfl, ht⟩
  | buildContext =>
    obtain ⟨t, ht⟩ := firstOf_eq_some w h
    exact ⟨.buildContext, t, Or.inr rfl, ht⟩

/-- What the rules for toolchains find is the runtime of a toolchain. -/
theorem firstFound_eq_ok {rules : List Rule} {found : Candidate}
    (h : firstFound w c rules = .ok (some found)) :
    ∃ source t, (source = .toolchain ∨ source = .buildContext) ∧
      found = runtimeOf c.platform source t := by
  unfold firstFound at h
  induction rules with
  | nil => cases h
  | cons r rest ih =>
    rw [firstSome] at h
    split at h
    · cases h
    · rename_i other hrule
      cases h
      exact ofToolchainRule_eq_ok w c hrule
    · exact ih h

/-! ## The chain -/

/-- A rule that finds nothing is passed over. -/
theorem runIn_resolve_none {r : Rule} (h : (ofRule c r).runIn w = (.ok none, w))
    (rest : List Rule) : (resolve c (r :: rest)).runIn w = (resolve c rest).runIn w := by
  show (ofRule c r >>= _).runIn w = _
  rw [Action.runIn_bind_ok h]

/-- A rule that finds a toolchain ends the chain, and the toolchain is told. -/
theorem runIn_resolve_some {r : Rule} {platform : Option String} {source : RuntimeSource}
    {t : Toolchain}
    (h : (ofRule c r).runIn w = (.ok (some (runtimeOf platform source t)), w)) (rest : List Rule) :
    (resolve c (r :: rest)).runIn w = (.ok (runtimeOf platform source t),
      w.recorded logger .info ("Toolchain in retrolambda-runner: " ++ t.label)) := by
  have htold : told (runtimeOf platform source t) = some t.label := by
    have hne : t.label ≠ "" := by
      intro hlabel
      have hlen := congrArg String.length hlabel
      simp [Toolchain.label] at hlen
    simp [told, runtimeOf, hne]
  show (ofRule c r >>= _).runIn w = _
  rw [Action.runIn_bind_ok h]
  simp only [htold]
  rw [Action.runIn_bind_ok (Action.runIn_logAs _ _ _ _)]
  rfl

/-- The world after the resolution: the toolchain of the runtime is told, if there is one. -/
def toldIn (found : Candidate) : World :=
  match found.toolchain with
  | some label => w.recorded logger .info ("Toolchain in retrolambda-runner: " ++ label)
  | none => w

/-- The rules for toolchains give what they find, or else the host runtime. -/
theorem runIn_resolve_of_firstFound {rules : List Rule} (h : .explicitHome ∉ rules) :
    (resolve c rules).runIn w = match firstFound w c rules with
      | .error e => (.error e, w)
      | .ok (some found) => (.ok found, toldIn w found)
      | .ok none => (.ok (ofHost c), w) := by
  induction rules with
  | nil => rfl
  | cons r rest ih =>
    rw [List.mem_cons, not_or] at h
    have hrule := runIn_ofRule w c r (Ne.symm h.1)
    unfold firstFound at ih ⊢
    rw [firstSome]
    -- The rule fails, finds nothing or finds a toolchain; in the second case the rest decides.
    cases hfound : ofToolchainRule w c r with
    | error e =>
      rw [hfound] at hrule
      show (ofRule c r >>= _).runIn w = _
      rw [Action.runIn_bind, hrule]
    | ok o =>
      rw [hfound] at hrule
      cases o with
      | none => rw [runIn_resolve_none w c hrule, ih h.2]
      | some found =>
        obtain ⟨source, t, -, rfl⟩ := ofToolchainRule_eq_ok w c hfound
        exact runIn_resolve_some w c hrule rest

/-- The rule for a given home is none of those for toolchains. -/
theorem explicitHome_not_mem : .explicitHome ∉ toolchainRules := by
  decide

/-- Without a given home the chain asks for toolchains, and ends with the host. -/
theorem runIn_resolve_without_home (h : c.java8Home = none) :
    (resolve c chain).runIn w = match firstFound w c toolchainRules with
      | .error e => (.error e, w)
      | .ok (some found) => (.ok found, toldIn w found)
      | .ok none => (.ok (ofHost c), w) := by
  rw [chain, runIn_resolve_none w c (runIn_ofRule_explicitHome w c h),
    runIn_resolve_of_firstFound w c explicitHome_not_mem]

/-- The runtime of the host comes from no toolchain. -/
theorem ofHost_source : (ofHost c).source = .host ∧ (ofHost c).toolchain = none := by
  unfold ofHost
  split <;> exact ⟨rfl, rfl⟩

/-- Without a home as parameter the chain finds the runtime that has priority, or fails with the
refusal before it. -/
theorem runIn_resolve_chain (hhome : c.java8Home = none) (hread : c.toolchains.Readable) :
    (resolve c chain).runIn w = match preferred w c with
      | .error e => (.error e, w)
      | .ok found => (.ok found, toldIn w found) := by
  rw [runIn_resolve_without_home w c hhome, preferred_eq w c hread]
  rcases firstFound w c toolchainRules with e | _ | found
  · rfl
  · dsimp only
    rw [toldIn, (ofHost_source c).2]
  · rfl

/-- A runtime has a toolchain exactly when its source is one. -/
theorem source_of_preferred (hread : c.toolchains.Readable) {found : Candidate}
    (h : preferred w c = .ok found) :
    (found.source = .toolchain ∨ found.source = .buildContext) ↔
      ∃ label, found.toolchain = some label := by
  rw [preferred_eq w c hread] at h
  split at h
  · cases h
  · rename_i other hfound
    cases h
    obtain ⟨source, t, hsource, rfl⟩ := firstFound_eq_ok w c hfound
    exact iff_of_true hsource ⟨_, rfl⟩
  · cases h
    rw [(ofHost_source c).1, (ofHost_source c).2]
    simp

/-! ## Toolchains without influence -/

/-- Only what is relevant can decide, so the search may leave out the rest. -/
theorem find?_decides_of_relevant {version : String}
    (hv : ∀ t, decides w c.platform version t → isRelevant w c.platform t) (ts : List Toolchain) :
    ts.find? (decides w c.platform version)
      = (ts.filter (isRelevant w c.platform)).find? (decides w c.platform version) := by
  rw [List.find?_filter]
  congr 1
  funext t
  rw [Bool.decide_and, Bool.decide_coe, Bool.decide_coe]
  cases hs : decides w c.platform version t with
  | false => rw [Bool.and_false]
  | true => rw [hv t hs, Bool.and_self]

/-- The runtime depends on the relevant toolchains and on the one that was selected alone. -/
theorem preferred_congr {ts : List Toolchain}
    (h : ts.filter (isRelevant w c.platform)
      = c.toolchains.toolchains.filter (isRelevant w c.platform)) :
    preferred w { c with toolchains := { c.toolchains with toolchains := ts } }
      = preferred w c := by
  have h18 : ∀ t, decides w c.platform "1.8" t → isRelevant w c.platform t := by
    intro t ht
    rw [isRelevant, ht, Bool.true_or]
  have h8 : ∀ t, decides w c.platform "8" t → isRelevant w c.platform t := by
    intro t ht
    rw [isRelevant, ht, Bool.or_true]
  unfold preferred
  dsimp only
  rw [find?_decides_of_relevant w c h18 ts, find?_decides_of_relevant w c h8 ts, h,
    ← find?_decides_of_relevant w c h18, ← find?_decides_of_relevant w c h8]
  rfl

/-- A toolchain that ends the search for version 1.8 has priority over everything else, wherever it
stands. -/
theorem preferred_of_decides (h : ∃ t ∈ c.toolchains.toolchains, decides w c.platform "1.8" t) :
    ∃ t ∈ c.toolchains.toolchains, decides w c.platform "1.8" t ∧
      preferred w c = runtimeIn w c.platform .toolchain t := by
  obtain ⟨t, ht⟩ := Option.isSome_iff_exists.mp (List.find?_isSome.mpr h)
  refine ⟨t, List.mem_of_find?_eq_some ht, List.find?_some ht, ?_⟩
  rw [preferred, ht]

/-! ## Where no look is refused -/

/-- Whether a toolchain serves as runtime of a version: its type and the version that it provides
are right, and its launcher is there. -/
def serves (platform : Option String) (version : String) (t : Toolchain) : Bool :=
  isOffered version t && (hasLauncher w platform t).toOption.getD false

/-- The runtime that has priority as long as no look is refused: that of the first toolchain that
serves version 1.8, of the first that serves version 8, of the toolchain of the build, or of the
host. -/
def served : Candidate :=
  match c.toolchains.toolchains.find? (serves w c.platform "1.8") with
  | some t => runtimeOf c.platform .toolchain t
  | none =>
    match c.toolchains.toolchains.find? (serves w c.platform "8") with
    | some t => runtimeOf c.platform .toolchain t
    | none =>
      match (c.toolchains.forBuild jdk).filter fun t =>
          (hasLauncher w c.platform t).toOption.getD false with
      | some t => runtimeOf c.platform .buildContext t
      | none =>
        match c.host.home with
        | some home => ⟨(javaExecutable home c.platform).toString, .host, none⟩
        | none => ⟨"java", .host, none⟩

/-- A toolchain that the rules may look at: it is in the registry, or was selected there. -/
def IsManaged (r : Registry) (t : Toolchain) : Prop :=
  t ∈ r.toolchains ∨ r.forBuild jdk = some t

/-- Where every launcher can be looked for, the documented choice is made. -/
theorem preferred_of_no_refusal
    (h : ∀ t, IsManaged c.toolchains t → ∃ found, hasLauncher w c.platform t = .ok found) :
    preferred w c = .ok (served w c) := by
  have hdecisive : ∀ t, IsManaged c.toolchains t →
      isDecisive w c.platform t = (hasLauncher w c.platform t).toOption.getD false := by
    intro t ht
    obtain ⟨found, hfound⟩ := h t ht
    unfold isDecisive
    rw [hfound]
    rfl
  have hfind (version : String) : c.toolchains.toolchains.find? (decides w c.platform version)
      = c.toolchains.toolchains.find? (serves w c.platform version) :=
    List.find?_congr fun t ht => by rw [decides, serves, hdecisive t (Or.inl ht)]
  have hselected : (c.toolchains.forBuild jdk).filter (isDecisive w c.platform)
      = (c.toolchains.forBuild jdk).filter fun t =>
        (hasLauncher w c.platform t).toOption.getD false := by
    cases hbuild : c.toolchains.forBuild jdk with
    | none => rfl
    | some t => rw [Option.filter_some, Option.filter_some, hdecisive t (Or.inr hbuild)]
  have hruntime (source : RuntimeSource) (t : Toolchain) (ht : IsManaged c.toolchains t) :
      runtimeIn w c.platform source t = .ok (runtimeOf c.platform source t) := by
    obtain ⟨found, hfound⟩ := h t ht
    unfold runtimeIn
    rw [hfound]
  -- A look that is not refused tells whether the launcher is there, for all managed toolchains.
  unfold preferred served
  rw [hfind, hfind, hselected]
  split
  · rename_i t ht
    exact hruntime _ t (Or.inl (List.mem_of_find?_eq_some ht))
  · split
    · rename_i t ht
      exact hruntime _ t (Or.inl (List.mem_of_find?_eq_some ht))
    · split
      · rename_i t ht
        exact hruntime _ t (Or.inr (Option.eq_some_of_filter_eq_some ht))
      · split <;> rfl

/-- The refusal that ends the search is that of a look for the launcher of a toolchain. -/
theorem refused_of_preferred {e : Failure} (h : preferred w c = .error e) :
    ∃ t errno, IsManaged c.toolchains t ∧ hasLauncher w c.platform t = .error errno ∧
      e = Files.failure errno (javaExecutable t.home c.platform) := by
  have hruntime (source : RuntimeSource) (t : Toolchain) (ht : IsManaged c.toolchains t)
      (h : runtimeIn w c.platform source t = .error e) : ∃ t errno, IsManaged c.toolchains t ∧
        hasLauncher w c.platform t = .error errno ∧
        e = Files.failure errno (javaExecutable t.home c.platform) := by
    unfold runtimeIn at h
    split at h
    · cases h
    · rename_i errno herrno
      cases h
      exact ⟨t, errno, ht, herrno, rfl⟩
  -- Whichever toolchain was preferred, it is a managed one.
  unfold preferred at h
  split at h
  · rename_i t ht
    exact hruntime _ t (Or.inl (List.mem_of_find?_eq_some ht)) h
  · split at h
    · rename_i t ht
      exact hruntime _ t (Or.inl (List.mem_of_find?_eq_some ht)) h
    · split at h
      · rename_i t ht
        exact hruntime _ t (Or.inr (Option.eq_some_of_filter_eq_some ht)) h
      · split at h <;> cases h

/-! ## Priority -/

/-- **The order of the rules.** Without a home as parameter, and with versions that can be read, the
resolution gives the runtime that has priority, or it fails with a refusal to look for the launcher of
a toolchain and records nothing. Where no such look is refused it never fails, and the runtime is that
of the first toolchain that serves. A toolchain that ends the search for version 1.8 wins over all
others. One record names the toolchain if the source is one, and nothing is recorded otherwise.
Toolchains that are not relevant can come and go. -/
theorem resolve_priority (hhome : c.java8Home = none) (hread : c.toolchains.Readable) :
    ((∃ found w', (resolve c chain).runIn w = (.ok found, w') ∧ preferred w c = .ok found ∧
        ((found.source = .toolchain ∨ found.source = .buildContext) →
          ∃ label, found.toolchain = some label ∧
            w' = w.recorded logger .info ("Toolchain in retrolambda-runner: " ++ label)) ∧
        (¬ (found.source = .toolchain ∨ found.source = .buildContext) → w' = w)) ∨
      ∃ e t errno, (resolve c chain).runIn w = (.error e, w) ∧ preferred w c = .error e ∧
        IsManaged c.toolchains t ∧ hasLauncher w c.platform t = .error errno ∧
        e = Files.failure errno (javaExecutable t.home c.platform)) ∧
    ((∀ t, IsManaged c.toolchains t → ∃ found, hasLauncher w c.platform t = .ok found) →
      ((resolve c chain).runIn w).1 = .ok (served w c)) ∧
    ((∃ t ∈ c.toolchains.toolchains, decides w c.platform "1.8" t) →
      ∃ t ∈ c.toolchains.toolchains, decides w c.platform "1.8" t ∧
        preferred w c = runtimeIn w c.platform .toolchain t) ∧
    (∀ ts : List Toolchain, (∀ t ∈ ts, t.Readable) →
      ts.filter (isRelevant w c.platform)
        = c.toolchains.toolchains.filter (isRelevant w c.platform) →
      (resolve { c with toolchains := { c.toolchains with toolchains := ts } } chain).runIn w
        = (resolve c chain).runIn w) := by
  have hrun := runIn_resolve_chain w c hhome hread
  refine ⟨?_, ?_, preferred_of_decides w c, ?_⟩
  · cases hpreferred : preferred w c with
    | error e =>
      rw [hpreferred] at hrun
      obtain ⟨t, errno, ht, herrno, he⟩ := refused_of_preferred w c hpreferred
      exact Or.inr ⟨e, t, errno, hrun, rfl, ht, herrno, he⟩
    | ok found =>
      rw [hpreferred] at hrun
      -- A toolchain is told by its label, and the host has none.
      have hsource := source_of_preferred w c hread hpreferred
      refine Or.inl ⟨found, _, hrun, rfl, ?_, ?_⟩
      · intro h
        obtain ⟨label, hlabel⟩ := hsource.mp h
        refine ⟨label, hlabel, ?_⟩
        rw [toldIn, hlabel]
      · intro h
        rw [hsource] at h
        unfold toldIn
        split
        · rename_i label hlabel
          exact absurd ⟨label, hlabel⟩ h
        · rfl
  · intro hlooks
    rw [hrun, preferred_of_no_refusal w c hlooks]
  · intro ts hts hsame
    have hpreferred := preferred_congr w c hsame
    rw [hrun, runIn_resolve_chain w { c with toolchains := { c.toolchains with toolchains := ts } }
      hhome hts, hpreferred]

/-! ## Examples of machines -/

/-- A machine with two installations of Java. -/
def twoInstallations : World where
  tree := { nodes := [
    (["a"], .directory), (["a", "bin"], .directory), (["a", "bin", "java"], .file 1 true []),
    (["b"], .directory), (["b", "bin"], .directory), (["b", "bin", "java"], .file 2 true [])] }
  cwd := []
  environment := []

/-- Toolchains of which only the first serves version 8 and only the last serves version 1.8. -/
def mixedToolchains : Context where
  toolchains := { toolchains := [
    ⟨"jdk", [("version", "8")], ⟨.root, ["a"]⟩⟩,
    ⟨"jdk", [("version", "1.8")], ⟨.root, ["c"]⟩⟩,
    ⟨"protobuf", [("version", "1.8")], ⟨.root, ["b"]⟩⟩,
    ⟨"jdk", [("version", "[1.8]"), ("version", "8")], ⟨.root, ["a"]⟩⟩,
    ⟨"jdk", [("version", "1.8.0")], ⟨.root, ["b"]⟩⟩] }

theorem readable_mixedToolchains : mixedToolchains.toolchains.Readable := by
  intro t ht v hv
  apply Version.readable_of_length_le
  simp only [mixedToolchains, List.mem_cons, List.not_mem_nil, or_false] at ht
  rcases ht with rfl | rfl | rfl | rfl | rfl <;>
    (simp only [List.lookup_cons, beq_self_eq_true, Option.some.injEq] at hv; subst hv; decide)

theorem hasLauncher_twoInstallations :
    hasLauncher twoInstallations none ⟨"jdk", [("version", "1.8.0")], ⟨.root, ["b"]⟩⟩ = .ok true ∧
    hasLauncher twoInstallations none ⟨"jdk", [("version", "1.8")], ⟨.root, ["c"]⟩⟩ = .ok false := by
  have hb : javaExecutable ⟨.root, ["b"]⟩ none = ⟨.root, ["b", "bin", "java"]⟩ := by cbv
  have hc : javaExecutable ⟨.root, ["c"]⟩ none = ⟨.root, ["c", "bin", "java"]⟩ := by cbv
  rw [hasLauncher, hasLauncher, hb, hc]
  constructor
  · refine FileTree.isFile_iff.mpr ⟨[], FileTree.read_eq_ok.mpr ⟨["b", "bin", "java"], 2, true, ?_, rfl⟩⟩
    exact FileTree.locate_of_directories (by decide) (by decide) (by decide) (by decide)
      (FileTree.ne_link_of_file rfl)
  · refine FileTree.isFile_of_noEntry (FileTree.status_of_locate_error ?_)
    exact FileTree.locate_of_missing [] (by decide) (by decide) (by decide)
      (fun k hk => absurd hk (Nat.not_lt_zero k)) (by decide) (by decide)

theorem find?_mixedToolchains :
    mixedToolchains.toolchains.toolchains.find? (decides twoInstallations none "1.8")
      = some ⟨"jdk", [("version", "1.8.0")], ⟨.root, ["b"]⟩⟩ := by
  obtain ⟨hb, hc⟩ := hasLauncher_twoInstallations
  have ho : ∀ home, isOffered "1.8" ⟨"jdk", [("version", "8")], home⟩ = false := fun _ => rfl
  have ho' : ∀ home, isOffered "1.8"
      ⟨"jdk", [("version", "[1.8]"), ("version", "8")], home⟩ = false := fun _ => rfl
  have hp : ∀ home, isOffered "1.8" ⟨"protobuf", [("version", "1.8")], home⟩ = false := fun _ => rfl
  have hy : isOffered "1.8" ⟨"jdk", [("version", "1.8.0")], ⟨.root, ["b"]⟩⟩ = true := rfl
  have hdecisive : isDecisive twoInstallations none ⟨"jdk", [("version", "1.8.0")], ⟨.root, ["b"]⟩⟩
      = true := by
    unfold isDecisive
    rw [hb]
  have hidle : isDecisive twoInstallations none ⟨"jdk", [("version", "1.8")], ⟨.root, ["c"]⟩⟩
      = false := by
    unfold isDecisive
    rw [hc]
  simp only [mixedToolchains, decides, ho, ho', hp, hy, hdecisive, hidle, List.find?_cons,
    Bool.false_and, Bool.and_false, Bool.and_self]

theorem preferred_mixedToolchains : preferred twoInstallations mixedToolchains
    = .ok ⟨"/b/bin/java", .toolchain, some "JDK[/b]"⟩ := by
  have hlauncher : (javaExecutable ⟨.root, ["b"]⟩ none).toString = "/b/bin/java" := by cbv
  have hlabel : Toolchain.label ⟨"jdk", [("version", "1.8.0")], ⟨.root, ["b"]⟩⟩ = "JDK[/b]" := by
    decide
  rw [preferred, show mixedToolchains.platform = none from rfl, find?_mixedToolchains]
  dsimp only
  unfold runtimeIn runtimeOf
  rw [hasLauncher_twoInstallations.1, hlabel, hlauncher]

/-- The toolchain of version 1.8 wins, although one of version 8 stands before it. -/
theorem resolve_priority_mixed :
    mixedToolchains.java8Home = none ∧ mixedToolchains.toolchains.Readable ∧
      ((resolve mixedToolchains chain).runIn twoInstallations).1
        = .ok ⟨"/b/bin/java", .toolchain, some "JDK[/b]"⟩ := by
  refine ⟨rfl, readable_mixedToolchains, ?_⟩
  obtain ⟨hfound | hrefused, -⟩ :=
    resolve_priority twoInstallations mixedToolchains rfl readable_mixedToolchains
  · obtain ⟨found, w', hrun, hfound, -⟩ := hfound
    rw [hrun]
    exact hfound.symm.trans preferred_mixedToolchains
  · obtain ⟨e, t, errno, -, he, -⟩ := hrefused
    cases he.symm.trans preferred_mixedToolchains

/-- A name of so many letters. -/
def longName (n : Nat) : String :=
  String.ofList (List.replicate n 'a')

/-- A toolchain of version 1.8 whose home has a name of so many letters. -/
def longNamed (n : Nat) : Toolchain :=
  ⟨"jdk", [("version", "1.8")], ⟨.root, [longName n]⟩⟩

/-- What a resolution with that toolchain depends on. -/
def longNamedToolchains (n : Nat) : Context where
  toolchains := { toolchains := [longNamed n] }

/-- A machine without files. -/
def bareMachine : World where
  tree := .empty
  cwd := []
  environment := []

/-- The bytes of a long name are as many as its characters. -/
theorem length_utf8_longName (n : Nat) : (Text.utf8 (longName n)).length = n := by
  rw [longName, Text.utf8, String.toList_ofList, List.length_flatMap, List.map_replicate,
    List.sum_replicate_nat]
  exact Nat.mul_one n

theorem javaExecutable_longNamed (n : Nat) :
    javaExecutable (longNamed n).home none = ⟨.root, [longName n, "bin", "java"]⟩ := by
  have hchild (p : Path) (s : String) (hs : s ≠ "" ∧ s ≠ "." ∧ '/' ∉ s.toList) :
      p.child s = ⟨p.anchor, p.names ++ [s]⟩ := Path.child_of_name hs p
  show (Path.child ⟨.root, [longName n]⟩ "bin").child "java" = _
  rw [hchild _ "bin" (by decide), hchild _ "java" (by decide)]
  rfl

/-- As a whole the path of the launcher is short enough, and no node can have its first name. -/
theorem hasLauncher_longNamed {n : Nat} (hname : FileTree.nameLimit < n) (hpath : n < 4000) :
    hasLauncher bareMachine none (longNamed n) = .error .nameTooLong := by
  have htext : (⟨.root, [longName n, "bin", "java"]⟩ : Path).toString
      = "/" ++ (longName n ++ "/bin/java") := by
    show "/" ++ (longName n ++ "/" ++ "bin" ++ "/" ++ "java") = _
    simp only [String.append_assoc]
    rfl
  -- The path as a whole is within its limit.
  have hshort : Path.isTooLong ⟨.root, [longName n, "bin", "java"]⟩ = false := by
    have hends : (Text.utf8 "/").length = 1 ∧ (Text.utf8 "/bin/java").length = 9 := by decide
    rw [Path.isTooLong, htext, Text.utf8_append, Text.utf8_append, List.length_append,
      List.length_append, length_utf8_longName, hends.1, hends.2, Path.sizeLimit]
    exact decide_eq_false (by omega)
  have hplain : Path.hasNull ⟨.root, [longName n, "bin", "java"]⟩ = false := by
    simp [Path.hasNull, longName]
  have hfits : FileTree.pathRefusal? ⟨.root, [longName n, "bin", "java"]⟩ = none := by
    rw [FileTree.pathRefusal?, hplain, hshort]
    rfl
  -- The first name is over the limit, so the way ends there.
  have hrefused : bareMachine.tree.refusal? [] (longName n) = some .nameTooLong := by
    rw [FileTree.refusal?, length_utf8_longName, if_pos hname]
    rfl
  have hlocate : bareMachine.tree.locate [] true (javaExecutable (longNamed n).home none)
      = .error .nameTooLong := by
    rw [javaExecutable_longNamed, FileTree.locate_of_fits hfits]
    exact FileTree.walk_refused hrefused _
  rw [hasLauncher, FileTree.isFile, FileTree.look, show bareMachine.cwd = [] from rfl,
    FileTree.status_of_locate_error hlocate]
  rfl

theorem readable_longNamedToolchains (n : Nat) : (longNamedToolchains n).toolchains.Readable := by
  intro t ht v hv
  rw [List.mem_singleton.mp ht] at hv
  cases hv
  exact Version.readable_of_length_le (by decide)

/-- A name over the limit makes the look for a launcher fail. -/
theorem firstFound_longNamed {n : Nat} (hname : FileTree.nameLimit < n) (hpath : n < 4000) :
    ∃ e, firstFound bareMachine (longNamedToolchains n) toolchainRules = .error e ∧
      preferred bareMachine (longNamedToolchains n) = .error e := by
  have hlauncher := hasLauncher_longNamed hname hpath
  -- A look that is refused is decisive, so that the search ends with it.
  have hdecides : decides bareMachine none "1.8" (longNamed n) = true := by
    have hoffered : isOffered "1.8" (longNamed n) = true := rfl
    unfold decides isDecisive
    rw [hoffered, hlauncher, Bool.true_and]
  have hfirst : (longNamedToolchains n).toolchains.toolchains.find? (decides bareMachine none "1.8")
      = some (longNamed n) := List.find?_cons_of_pos hdecides
  have hpreferred : ∃ e, preferred bareMachine (longNamedToolchains n) = .error e := by
    rw [preferred, show (longNamedToolchains n).platform = none from rfl, hfirst]
    dsimp only
    unfold runtimeIn
    rw [hlauncher]
    exact ⟨_, rfl⟩
  obtain ⟨e, he⟩ := hpreferred
  refine ⟨e, ?_, he⟩
  rw [preferred_eq _ _ (readable_longNamedToolchains n)] at he
  split at he
  · rename_i hfound
    cases he
    exact hfound
  · cases he
  · cases he

/-- The resolution does not always give a runtime: no node can have a name of 300 letters, and the look
for the launcher below it is refused. -/
theorem resolve_refused_longNamed :
    (longNamedToolchains 300).java8Home = none ∧ (longNamedToolchains 300).toolchains.Readable ∧
      ∃ e, (resolve (longNamedToolchains 300) chain).runIn bareMachine = (.error e, bareMachine) := by
  obtain ⟨e, -, he⟩ := firstFound_longNamed (n := 300) (by decide) (by decide)
  refine ⟨rfl, readable_longNamedToolchains 300, e, ?_⟩
  rw [runIn_resolve_chain _ _ rfl (readable_longNamedToolchains 300), he]

end Downlevel.Resolution
