import Downlevel.Proofs.Forked.Properties
/-!
# From a name to a call

A name of an entry point is a module, a colon and a path of attributes. It stands for a function if the
module can be loaded and each attribute of the path leads to the next. A run calls the function once;
before that, nothing is called, and whatever goes wrong becomes the one cause of one kind of failure,
unless it is an order to stop.
-/
namespace Downlevel

/-! ## Attributes -/

namespace Member

/-- One attribute after the other leads from an object to another one. -/
inductive Leads : Member → List String → Member → Prop
  | here (m : Member) : Leads m [] m
  | step {m m' next : Member} {name : String} {path : List String}
      (hfound : m.attributeNamed name = .ok next) (hrest : Leads next path m') :
      Leads m (name :: path) m'

/-- A path breaks off: some of it leads to an object on which the look-up of the next attribute fails. -/
def BreaksOff (m : Member) (path : List String) (e : Failure) : Prop :=
  ∃ before name after, path = before ++ name :: after ∧
    ∃ last, m.Leads before last ∧ last.attributeNamed name = .error e

variable {m m' : Member} {name : String} {path : List String} {e : Failure}

theorem leads_nil_iff : m.Leads [] m' ↔ m = m' := by
  constructor
  · rintro ⟨⟩
    rfl
  · rintro rfl
    exact .here _

/-- Names lead on from what the first one names. -/
theorem leads_cons_iff :
    m.Leads (name :: path) m' ↔ ∃ next, m.attributeNamed name = .ok next ∧ next.Leads path m' := by
  constructor
  · rintro (_ | ⟨hfound, hrest⟩)
    exact ⟨_, hfound, hrest⟩
  · rintro ⟨next, hfound, hrest⟩
    exact .step hfound hrest

theorem not_breaksOff_nil : ¬ m.BreaksOff [] e := by
  rintro ⟨before, name, after, hpath, -⟩
  cases before <;> cases hpath

/-- A path breaks off at its first attribute or below it. -/
theorem breaksOff_cons_iff : m.BreaksOff (name :: path) e ↔
    m.attributeNamed name = .error e ∨
      ∃ next, m.attributeNamed name = .ok next ∧ next.BreaksOff path e := by
  constructor
  · rintro ⟨before, next, after, hpath, last, hleads, hmissing⟩
    cases before with
    | nil =>
      cases hpath
      cases hleads
      exact Or.inl hmissing
    | cons first before =>
      cases hpath
      obtain ⟨m', hfound, hrest⟩ := leads_cons_iff.mp hleads
      exact Or.inr ⟨m', hfound, before, next, after, rfl, last, hrest, hmissing⟩
  · rintro (hmissing | ⟨m', hfound, before, next, after, rfl, last, hrest, hmissing⟩)
    · exact ⟨[], name, path, rfl, m, .here m, hmissing⟩
    · exact ⟨name :: before, next, after, rfl, last, .step hfound hrest, hmissing⟩

/-- A path is followed to its end exactly if each attribute leads to the next. -/
theorem follow_eq_ok_iff : m.follow path = .ok m' ↔ m.Leads path m' := by
  induction path generalizing m with
  | nil => rw [follow, Except.ok.injEq, leads_nil_iff]
  | cons name path ih =>
    rw [follow, leads_cons_iff]
    cases m.attributeNamed name with
    | error e => simp
    | ok next => simpa using ih

/-- The call of a function has a call as well. -/
example : (function 0 none).follow ["__call__", "__call__"] = .ok (function 0 none) := rfl

/-- Following fails if and only if the names break off, and with that failure. -/
theorem follow_eq_error_iff : m.follow path = .error e ↔ m.BreaksOff path e := by
  induction path generalizing m with
  | nil => simp [follow, not_breaksOff_nil]
  | cons name path ih =>
    rw [follow, breaksOff_cons_iff]
    cases m.attributeNamed name with
    | error e' => simp
    | ok next => simpa using ih

end Member

namespace Embedded

/-! ## Names -/

/-- A text that names an attribute of a module: the module, the first colon, and the attributes of the
path with dots between them. -/
structure Names (spec module_ : String) (path : List String) : Prop where
  text : spec = module_ ++ ":" ++ ".".intercalate path
  first : ':' ∉ module_.toList
  module_ne : module_ ≠ ""
  path_ne : ".".intercalate path ≠ ""
  parts : ∀ part ∈ path, '.' ∉ part.toList

variable {w : World} {spec module_ : String} {path : List String}

theorem Names.path_ne_nil (h : Names spec module_ path) : path ≠ [] := by
  rintro rfl
  exact h.path_ne rfl

/-- A text with a colon is cut at the first one. -/
theorem splitSpec_of_cut {front rest : List Char} (hspec : spec.toList = front ++ ':' :: rest)
    (hfirst : ':' ∉ front) : splitSpec spec = if front.isEmpty || rest.isEmpty then
        .error (typeFault ("Entry point must look like 'module:callable', got " ++ Text.quoted spec))
      else .ok (String.ofList front, String.ofList rest) := by
  have hlong : front.length ≠ (front ++ ':' :: rest).length := by
    rw [List.length_append, List.length_cons]
    omega
  have hrest : (front ++ ':' :: rest).drop (front.length + 1) = rest := by
    rw [← List.drop_drop, List.drop_left, List.drop_one, List.tail_cons]
  unfold splitSpec
  simp only [hspec, Text.takeWhile_append_cons hfirst, hrest, hlong, decide_false, Bool.false_or]

/-- A text without a colon is refused, and quoted. -/
theorem splitSpec_of_not_mem (h : ':' ∉ spec.toList) : splitSpec spec = .error
    (typeFault ("Entry point must look like 'module:callable', got " ++ Text.quoted spec)) := by
  unfold splitSpec
  simp only [Text.takeWhile_of_not_mem h, decide_true, Bool.true_or, if_true]

/-- A name is read back as what it names. -/
theorem Names.splitSpec_eq (h : Names spec module_ path) :
    splitSpec spec = .ok (module_, ".".intercalate path) := by
  have hspec : spec.toList = module_.toList ++ ':' :: (".".intercalate path).toList := by
    rw [h.text, String.toList_append, String.toList_append, List.append_assoc]
    rfl
  rw [splitSpec_of_cut hspec h.first, String.ofList_toList, String.ofList_toList, if_neg]
  rw [Bool.or_eq_true, List.isEmpty_iff, List.isEmpty_iff, String.toList_eq_nil_iff,
    String.toList_eq_nil_iff]
  exact not_or.mpr ⟨h.module_ne, h.path_ne⟩

/-- The names behind the colon are cut at its dots. -/
theorem Names.parts_eq (h : Names spec module_ path) :
    Text.parts '.' (".".intercalate path) = path :=
  Text.parts_intercalate h.parts h.path_ne_nil

example : Names "pkg.tool:Main.run:again" "pkg.tool" ["Main", "run:again"] :=
  ⟨by decide, by decide, by decide, by decide, by decide⟩

/-- A text that names nothing is refused. -/
theorem names_or_splitSpec (spec : String) : (∃ module_ path, Names spec module_ path) ∨
    splitSpec spec = .error
      (typeFault ("Entry point must look like 'module:callable', got " ++ Text.quoted spec)) := by
  by_cases hcolon : ':' ∈ spec.toList
  · obtain ⟨front, rest, hspec, hfirst⟩ := List.eq_append_cons_of_mem hcolon
    rw [splitSpec_of_cut hspec hfirst]
    split
    · exact Or.inr rfl
    · rename_i hne
      obtain ⟨hfront, hrest⟩ : front ≠ [] ∧ rest ≠ [] := by simpa using hne
      -- What stands behind the colon is cut at its dots and joined again.
      have hdots : ".".intercalate (Text.parts '.' (String.ofList rest)) = String.ofList rest :=
        Text.intercalate_parts '.' _
      refine Or.inl ⟨String.ofList front, Text.parts '.' (String.ofList rest), ?_, ?_, ?_, ?_,
        fun part => Text.not_mem_of_mem_parts⟩
      · rw [hdots, ← String.toList_inj, hspec]
        simp
      · rwa [String.toList_ofList]
      · simpa [← String.toList_inj] using hfront
      · rw [hdots]
        simpa [← String.toList_inj] using hrest
  · exact Or.inr (splitSpec_of_not_mem hcolon)

/-! ## What a name stands for -/

/-- What loading a name comes to: the function that it stands for, or the first thing that is wrong
with it. -/
inductive Loading (w : World) (spec : String) : Except Failure Entry → Prop
  /-- The text names nothing. -/
  | malformed (h : ∀ module_ path, ¬ Names spec module_ path) :
      Loading w spec (.error ⟨.foreign "TypeError"
        ("Entry point must look like 'module:callable', got " ++ Text.quoted spec), []⟩)
  /-- The module cannot be loaded. -/
  | notImported {module_ : String} {path : List String} {e : Failure}
      (hnames : Names spec module_ path) (h : Modules.load w module_ = .error e) :
      Loading w spec (.error e)
  /-- The look-up of an attribute of the path fails. -/
  | notFound {module_ : String} {path : List String} {object : Member} {e : Failure}
      (hnames : Names spec module_ path) (hload : Modules.load w module_ = .ok object)
      (h : object.BreaksOff path e) :
      Loading w spec (.error e)
  /-- The path leads to something that cannot be called. -/
  | notCallable {module_ : String} {path : List String} {object m : Member}
      (hnames : Names spec module_ path) (hload : Modules.load w module_ = .ok object)
      (hleads : object.Leads path m) (h : m.calling = none) :
      Loading w spec (.error ⟨.foreign "TypeError"
        ("Entry point " ++ Text.quoted spec ++ " is not callable"), []⟩)
  /-- The path leads to something that can be called. -/
  | found {module_ : String} {path : List String} {object m : Member} {c : Calling}
      (hnames : Names spec module_ path) (hload : Modules.load w module_ = .ok object)
      (hleads : object.Leads path m) (h : m.calling = some c) :
      Loading w spec (.ok ⟨spec, c.seconds, c.raised⟩)

/-- Loading is importing, following and checking that the end can be called. -/
theorem load_of_names (h : Names spec module_ path) :
    load w spec = match Modules.member w module_ path with
      | .error e => .error e
      | .ok m => match m.calling with
        | some c => .ok ⟨spec, c.seconds, c.raised⟩
        | none => .error (typeFault ("Entry point " ++ Text.quoted spec ++ " is not callable")) := by
  unfold load
  rw [h.splitSpec_eq]
  dsimp only
  rw [h.parts_eq]
  cases Modules.member w module_ path with
  | error e => rfl
  | ok m =>
    dsimp only
    cases m.calling with
    | none => rfl
    | some c => rw [h.text]

/-- Every load is one of the cases. -/
theorem loading_load (w : World) (spec : String) : Loading w spec (load w spec) := by
  rcases names_or_splitSpec spec with ⟨module_, path, hnames⟩ | hsplit
  · rw [load_of_names hnames, Modules.member]
    cases hload : Modules.load w module_ with
    | error e => exact .notImported hnames hload
    | ok object =>
      dsimp only
      -- The module was imported, so what is left is to follow the names in it.
      cases hfollow : object.follow path with
      | error e => exact .notFound hnames hload (Member.follow_eq_error_iff.mp hfollow)
      | ok m =>
        have hleads := Member.follow_eq_ok_iff.mp hfollow
        dsimp only
        cases hcalling : m.calling with
        | none => exact .notCallable hnames hload hleads hcalling
        | some c => exact .found hnames hload hleads hcalling
  · have hload : load w spec = .error
        (typeFault ("Entry point must look like 'module:callable', got " ++ Text.quoted spec)) := by
      rw [load, hsplit]
    rw [hload]
    refine .malformed fun module_ path hnames => ?_
    rw [hnames.splitSpec_eq] at hsplit
    cases hsplit

variable {found : Except Failure Entry}

/-- Each case determines what loading gives. -/
theorem Loading.load_eq (h : Loading w spec found) : load w spec = found := by
  cases h with
  | malformed h =>
    rcases names_or_splitSpec spec with ⟨module_, path, hnames⟩ | hsplit
    · exact absurd hnames (h module_ path)
    · rw [load, hsplit]
      rfl
  | notImported hnames h => rw [load_of_names hnames, Modules.member, h]
  | notFound hnames hload h =>
    rw [load_of_names hnames, Modules.member, hload]
    dsimp only
    rw [Member.follow_eq_error_iff.mpr h]
  | notCallable hnames hload hleads h =>
    rw [load_of_names hnames, Modules.member, hload]
    dsimp only
    rw [Member.follow_eq_ok_iff.mpr hleads]
    dsimp only
    rw [h]
    rfl
  | found hnames hload hleads h =>
    rw [load_of_names hnames, Modules.member, hload]
    dsimp only
    rw [Member.follow_eq_ok_iff.mpr hleads]
    dsimp only
    rw [h]

/-- Each name stands for one thing. -/
theorem loading_iff : Loading w spec found ↔ load w spec = found :=
  ⟨Loading.load_eq, fun h => h ▸ loading_load w spec⟩

/-- A name is wrong in some way, or stands for a function under its own text. -/
theorem loading_cases (w : World) (spec : String) : (∃ e, Loading w spec (.error e)) ∨
    ∃ seconds raised, Loading w spec (.ok ⟨spec, seconds, raised⟩) := by
  cases hload : load w spec with
  | error e => exact Or.inl ⟨e, loading_iff.mpr hload⟩
  | ok entry =>
    right
    cases loading_iff.mpr hload with
    | found hnames hmodule hleads h => exact ⟨_, _, .found hnames hmodule hleads h⟩

/-! ## The run -/

/-- The failure to run the function of a name, with what went wrong as its cause. -/
def failed (spec : String) (e : Failure) : Failure :=
  ⟨.run {
    kind := .embeddedCall
    message := "Failed to run Retrolambda: " ++ e.fault.text
    details := if spec = "" then [] else [("entry_point", .text spec)] }, e.fault :: e.causes⟩

/-- What is raised in an entry point is told with its name, also if that is empty. -/
theorem notRun_named (spec : String) (e : Failure) : notRun (.named spec) e = failed spec e := by
  unfold notRun failed Failure.because RunFault.about
  by_cases hspec : spec = ""
  · subst hspec
    rfl
  · have htruthy : (Data.text spec).isTruthy = true := by
      simpa [Data.isTruthy] using hspec
    simp only [RunFaultKind.subjectKey, EntryPoint.name, htruthy, if_true, hspec, if_false,
      Details.set]

/-- If there is nothing to call, nothing is done but to tell of the run. -/
theorem runIn_run_of_error {point : EntryPoint} {e : Failure} (h : point.entry w = .error e)
    (config : BuildConfig) :
    (run point config).runIn w = (.error (if e.fault.isExit then e else notRun point e),
      w.recorded logger .info "Processing classes with Retrolambda") := by
  unfold run
  rw [Action.runIn_bind_ok (Action.runIn_logAs _ _ _ _),
    Action.runIn_bind_ok (Action.runIn_view _ _), Action.runIn_bind, Action.runIn_orFail,
    Action.runIn_bind_ok (Action.runIn_get _), entry_recorded, h]
  dsimp only [Action.ofExcept]
  rw [Action.runIn_bind, Action.runIn_throw]
  dsimp only
  cases e.fault.isExit <;> rfl

/-- **A name is followed to its end before its function is called, and that is done once.** The run is a
success exactly when the name stands for something that can be called and returns. Whatever is wrong with
the name, and whatever the call raises, is the direct cause of the failure of the run, but for an order to
stop, which is passed on as it is; something is called in the second case only, with the properties in
order. -/
theorem run_named (spec : String) (config : BuildConfig) (w : World) :
    ((∃ result, ((run (.named spec) config).runIn w).1 = .ok result) ↔
      ∃ seconds, Loading w spec (.ok ⟨spec, seconds, none⟩)) ∧
    ((∃ e, Loading w spec (.error e)) ∨
      ∃ seconds raised, Loading w spec (.ok ⟨spec, seconds, raised⟩)) ∧
    (∀ e, Loading w spec (.error e) →
      ((run (.named spec) config).runIn w).1
        = .error (if e.fault.isExit then e else failed spec e) ∧
      ((run (.named spec) config).runIn w).2.calls = w.calls) ∧
    (∀ seconds raised, Loading w spec (.ok ⟨spec, seconds, raised⟩) →
      ((run (.named spec) config).runIn w).2.calls = w.calls ++ [⟨spec, config.properties⟩] ∧
      (raised = none → ∃ duration, ((run (.named spec) config).runIn w).1
        = .ok { success := true, backend := some "embedded", duration }) ∧
      ∀ e, raised = some e → ((run (.named spec) config).runIn w).1
        = .error (if e.fault.isExit then e else failed spec e)) := by
  have hentry (found : Except Failure Entry) (h : Loading w spec found) :
      (EntryPoint.named spec).entry w = found :=
    loading_iff.mp h
  have hwrong (e : Failure) (h : Loading w spec (.error e)) :
      (run (.named spec) config).runIn w = (.error (if e.fault.isExit then e else failed spec e),
        w.recorded logger .info "Processing classes with Retrolambda") := by
    rw [← notRun_named]
    exact runIn_run_of_error (hentry _ h) config
  have hreturns (seconds : Float) (h : Loading w spec (.ok ⟨spec, seconds, none⟩)) :
      ∃ duration, ((run (.named spec) config).runIn w).1
        = .ok { success := true, backend := some "embedded", duration } :=
    exists_fst_run (hentry _ h) config
  have hraises (seconds : Float) (e : Failure) (h : Loading w spec (.ok ⟨spec, seconds, some e⟩)) :
      ((run (.named spec) config).runIn w).1
        = .error (if e.fault.isExit then e else failed spec e) := by
    obtain ⟨_, hrun⟩ := exists_fst_run (hentry _ h) config
    rw [hrun, ← notRun_named]
  -- Loading fails, or it finds a function that returns or raises.
  have hends := loading_cases w spec
  refine ⟨⟨?_, ?_⟩, hends, ?_, ?_⟩
  · rintro ⟨result, hresult⟩
    rcases hends with ⟨e, h⟩ | ⟨seconds, _ | e, h⟩
    · rw [hwrong e h] at hresult
      cases hresult
    · exact ⟨seconds, h⟩
    · rw [hraises seconds e h] at hresult
      cases hresult
  · rintro ⟨seconds, h⟩
    obtain ⟨duration, hrun⟩ := hreturns seconds h
    exact ⟨_, hrun⟩
  · intro e h
    rw [hwrong e h]
    exact ⟨rfl, World.recorded_calls⟩
  · intro seconds raised h
    refine ⟨calls_run (hentry _ h) config, ?_, ?_⟩
    · rintro rfl
      exact hreturns seconds h
    · rintro e rfl
      exact hraises seconds e h

end Embedded

end Downlevel
