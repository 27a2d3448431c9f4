import Downlevel.Proofs.World.Frame
import Downlevel.Settings.Section
/-!
# The places that set a field

A field has the value that its section gives under its name, or else that of its variable in the
environment, or else that of its variable in the file of variables, or else its default. Entries that
name no field of a section do not change how it is read. This order is what is asked of the library that
finds the values; the standard one keeps it.
-/
namespace Downlevel

/-! ## Readings with a value -/

namespace Reading

variable {α β : Type}

/-- Two readings have a value together if each has one. -/
theorem seq_eq_value {f : Reading (α → β)} {x : Reading α} {b : β} :
    f.seq x = .value b ↔ ∃ g a, f = .value g ∧ x = .value a ∧ g a = b := by
  constructor
  · intro h
    cases f <;> cases x <;> cases h
    exact ⟨_, _, rfl, rfl, rfl⟩
  · rintro ⟨g, a, rfl, rfl, rfl⟩
    rfl

theorem below_eq_value {key : FieldKey} {r : Reading α} {x : α} :
    r.below key = .value x ↔ r = .value x := by
  cases r <;> simp [below]

theorem result_eq_ok {title : String} {r : Reading α} {x : α} :
    r.result title = .ok x ↔ r = .value x := by
  cases r <;> simp [result]

/-- The value of a reading, if it has one. -/
def toOption : Reading α → Option α
  | value x => some x
  | _ => none

theorem toOption_eq_some {r : Reading α} {x : α} : r.toOption = some x ↔ r = .value x := by
  cases r <;> simp [toOption]

end Reading

/-! ## Entries that name a field -/

/-- An entry names a field: its key is the name of the field, letter case apart. -/
def Data.NamesField (name : String) (entry : Data × Data) : Prop :=
  ∃ key, entry.1 = .text key ∧ Text.lowercase key = name

/-- A key is the same as a text if it is that text. -/
theorem Data.sameKey_text {key : Data} {name : String} :
    sameKey key (.text name) = true ↔ key = .text name := by
  have hwhole : (text name).whole? = none := rfl
  cases key with
  | text key => simp [sameKey]
  | float x =>
    refine iff_of_false ?_ nofun
    unfold sameKey
    cases (float x).whole? <;> simp [hwhole]
  | _ => simp [sameKey, whole?]

/-- The value of a text key is that of the first entry with it. -/
theorem Data.field?_eq (name : String) (entries : List (Data × Data)) :
    field? name entries = (entries.find? fun e => sameKey e.1 (.text name)).map Prod.snd := by
  unfold field?
  induction entries with
  | nil => rfl
  | cons e entries ih =>
    rw [lookup?, List.find?_cons, ih]
    cases sameKey e.1 (.text name) <;> rfl

namespace SettingsSource

variable {α : Type} {s : SettingsSource} {name : String}

/-- Whether the key of an entry is the name of a field, letter case apart. -/
def spells (name : String) (entry : Data × Data) : Bool :=
  match entry.1 with
  | .text key => Text.lowercase key == name
  | _ => false

/-- An entry spells a name if and only if its key is the name in some case. -/
theorem spells_iff {entry : Data × Data} : spells name entry = true ↔ Data.NamesField name entry := by
  obtain ⟨key, value⟩ := entry
  unfold spells Data.NamesField
  cases key <;> simp

/-- The entries that name one of some fields. -/
def naming (names : List String) (given : Fields) : Fields :=
  given.filter fun e => names.any fun name => spells name e

/-- No entry that is given names a field. -/
def Unnamed (s : SettingsSource) (name : String) : Prop :=
  ∀ e ∈ s.given, ¬ Data.NamesField name e

/-- A variable is that of a field, letter case apart. -/
def IsVariable {β : Type} (s : SettingsSource) (name : String) (v : String × β) : Prop :=
  Text.lowercase v.1 = s.family ++ name

/-- The data that set a field: those of the entry with its name, or of one with another spelling of its
name; else the text of one of its variables in the environment; else that of one of its variables in the
file of variables, where a variable may be without a text; else nothing. -/
inductive Sets (s : SettingsSource) (name : String) : Option Data → Prop
  | exact {d : Data} (h : Data.field? name s.given = some d) : Sets s name (some d)
  | spelled {e : Data × Data} (hexact : Data.field? name s.given = none) (he : e ∈ s.given)
    (hnames : Data.NamesField name e) : Sets s name (some e.2)
  | environment {v : String × String} (hunnamed : s.Unnamed name)
    (hv : v ∈ s.bindings.environment) (hname : s.IsVariable name v) : Sets s name (some (.text v.2))
  | file {v : String × Option String} (hunnamed : s.Unnamed name)
    (hunset : ∀ v ∈ s.bindings.environment, ¬ s.IsVariable name v) (hv : v ∈ s.bindings.file)
    (hname : s.IsVariable name v) : Sets s name (v.2.map .text)
  | nothing (hunnamed : s.Unnamed name)
    (hunset : ∀ v ∈ s.bindings.environment, ¬ s.IsVariable name v)
    (hfile : ∀ v ∈ s.bindings.file, ¬ s.IsVariable name v) : Sets s name none

/-- What sets a field that is named is an entry that names it. -/
theorem Sets.of_named {r : Option Data} (h : s.Sets name r) (hname : Text.lowercase name = name)
    (hnamed : ¬ s.Unnamed name) : ∃ e ∈ s.given, Data.NamesField name e ∧ r = some e.2 := by
  cases h with
  | @exact d hexact =>
    rw [Data.field?_eq] at hexact
    obtain ⟨e, he, rfl⟩ := Option.map_eq_some_iff.mp hexact
    have hsame : Data.sameKey e.1 (.text name) = true := by
      simpa using List.find?_some he
    exact ⟨e, List.mem_of_find?_eq_some he, ⟨name, Data.sameKey_text.mp hsame, hname⟩, rfl⟩
  | spelled _ he hnames => exact ⟨_, he, hnames, rfl⟩
  | environment hunnamed _ _ => exact absurd hunnamed hnamed
  | file hunnamed _ _ _ => exact absurd hunnamed hnamed
  | nothing hunnamed _ _ => exact absurd hunnamed hnamed

/-- Nothing sets a field that is neither named nor has a variable. -/
theorem Sets.eq_none {r : Option Data} (h : s.Sets name r) (hname : Text.lowercase name = name)
    (hunnamed : s.Unnamed name) (hunset : ∀ v ∈ s.bindings.environment, ¬ s.IsVariable name v)
    (hfile : ∀ v ∈ s.bindings.file, ¬ s.IsVariable name v) : r = none := by
  cases h with
  | exact hexact =>
    rw [Data.field?_eq] at hexact
    obtain ⟨e, he, -⟩ := Option.map_eq_some_iff.mp hexact
    have hsame : Data.sameKey e.1 (.text name) = true := by
      simpa using List.find?_some he
    exact absurd ⟨name, Data.sameKey_text.mp hsame, hname⟩
      (hunnamed e (List.mem_of_find?_eq_some he))
  | spelled _ he hnames => exact absurd hnames (hunnamed _ he)
  | environment _ hv hvariable => exact absurd hvariable (hunset _ hv)
  | file _ _ hv hvariable => exact absurd hvariable (hfile _ hv)
  | nothing _ _ _ => rfl

/-- A field has the value that is read from the data that set it, or its default if nothing does. -/
def Settled (s : SettingsSource) (name : String) (fallback : Except Failure α)
    (read : Data → Reading α) (x : α) : Prop :=
  (∃ d, s.Sets name (some d) ∧ read d = .value x) ∨ (s.Sets name none ∧ fallback = .ok x)

end SettingsSource

/-! ## The order of the places -/

/-- What is asked of a library of settings: the data that it finds for a field in small letters set the
field, and entries that name other fields do not count. -/
structure SettingsLibrary.Ordered (library : SettingsLibrary) : Prop where
  sets : ∀ (s : SettingsSource) (name : String), Text.lowercase name = name →
    s.Sets name (library.value? s name)
  others : ∀ (given given' : Fields) (bindings : Variables) (family name : String),
    Text.lowercase name = name →
    SettingsSource.naming [name] given' = SettingsSource.naming [name] given →
    library.value? ⟨given', bindings, family⟩ name = library.value? ⟨given, bindings, family⟩ name

namespace SettingsLibrary.Ordered

variable {α : Type} {library : SettingsLibrary} {s : SettingsSource} {name : String}

/-- A field that is read has the value of the first place that sets it. -/
theorem settled (h : library.Ordered) (hname : Text.lowercase name = name)
    {fallback : Except Failure α} {read : Data → Reading α} {x : α}
    (hread : s.field library name fallback read = .value x) : s.Settled name fallback read x := by
  have hsets := h.sets s name hname
  unfold SettingsSource.field at hread
  cases hvalue : library.value? s name with
  | some d =>
    rw [hvalue] at hread hsets
    exact Or.inl ⟨d, hsets, Reading.below_eq_value.mp hread⟩
  | none =>
    rw [hvalue] at hread hsets
    cases fallback with
    | ok y => exact Or.inr ⟨hsets, congrArg Except.ok (Reading.value.inj hread)⟩
    | error e => cases hread

/-- A field is read alike if the entries that name fields of its section are the same. -/
theorem field_naming (h : library.Ordered) {names : List String}
    (hnames : ∀ name ∈ names, Text.lowercase name = name) (hmem : name ∈ names) (given : Fields)
    (bindings : Variables) (family : String) (fallback : Except Failure α)
    (read : Data → Reading α) :
    SettingsSource.field library ⟨SettingsSource.naming names given, bindings, family⟩ name fallback
        read
      = SettingsSource.field library ⟨given, bindings, family⟩ name fallback read := by
  have hkept : SettingsSource.naming [name] (SettingsSource.naming names given)
      = SettingsSource.naming [name] given := by
    unfold SettingsSource.naming
    rw [List.filter_filter]
    apply List.filter_congr
    intro e _
    -- What names the field names one of the fields of the section.
    cases he : [name].any fun name => SettingsSource.spells name e with
    | false => rfl
    | true =>
      have hspells : SettingsSource.spells name e = true := by simpa using he
      rw [Bool.true_and]
      exact List.any_eq_true.mpr ⟨name, hmem, hspells⟩
  unfold SettingsSource.field
  rw [h.others _ _ bindings family name (hnames name hmem) hkept]

end SettingsLibrary.Ordered

/-! ## The standard library -/

namespace SettingsSource

variable {s : SettingsSource} {name : String}

/-- A given value is found under the very name first, and then under its spellings. -/
theorem given?_eq (s : SettingsSource) (name : String) : s.given? name
    = ((s.given.find? fun e => Data.sameKey e.1 (.text name)).or
        (s.given.find? (spells name))).map Prod.snd := by
  rw [given?, Data.field?_eq, Option.map_or]
  rfl

/-- A field has no given value if no entry names it, and only then. -/
theorem given?_eq_none_iff (hname : Text.lowercase name = name) :
    s.given? name = none ↔ s.Unnamed name := by
  rw [given?_eq, Option.map_eq_none_iff, Option.or_eq_none_iff, List.find?_eq_none,
    List.find?_eq_none]
  constructor
  · rintro ⟨-, hnone⟩ e he hnames
    exact hnone e he (spells_iff.mpr hnames)
  · intro hnone
    refine ⟨fun e he hsame => ?_, fun e he hspells => hnone e he (spells_iff.mp hspells)⟩
    exact hnone e he ⟨name, Data.sameKey_text.mp hsame, hname⟩

/-- A given value is that of an entry with the name of the field, or with another spelling of it. -/
theorem sets_of_given? {d : Data} (h : s.given? name = some d) : s.Sets name (some d) := by
  unfold given? at h
  cases hexact : Data.field? name s.given with
  | some d' =>
    rw [hexact] at h
    cases h
    exact .exact hexact
  | none =>
    rw [hexact, Option.none_or, Option.map_eq_some_iff] at h
    obtain ⟨e, he, rfl⟩ := h
    exact .spelled hexact (List.mem_of_find?_eq_some he)
      (spells_iff.mp (List.find?_some he))

end SettingsSource

namespace Variables

variable {β : Type} {name : String} {vs : List (String × β)}

/-- A value under a name was given under a spelling of it. -/
theorem exists_of_lastNamed? {x : β} (h : lastNamed? name vs = some x) :
    ∃ v ∈ vs, Text.lowercase v.1 = name ∧ v.2 = x := by
  obtain ⟨v, hv, rfl⟩ := Option.map_eq_some_iff.mp h
  refine ⟨v, List.mem_reverse.mp (List.mem_of_find?_eq_some hv), ?_, rfl⟩
  simpa using List.find?_some hv

/-- Without a value under a name no spelling of it was given. -/
theorem lastNamed?_eq_none (h : lastNamed? name vs = none) :
    ∀ v ∈ vs, Text.lowercase v.1 ≠ name := by
  intro v hv
  simpa using List.find?_eq_none.mp (Option.map_eq_none_iff.mp h) v (List.mem_reverse.mpr hv)

end Variables

/-- The standard library keeps the order. -/
theorem SettingsLibrary.ordered_standard : standard.Ordered where
  sets s name hname := by
    show s.Sets name ((s.given? name).or ((s.bindings.value? (s.family ++ name)).map .text))
    cases hgiven : s.given? name with
    | some d => exact SettingsSource.sets_of_given? hgiven
    | none =>
      have hunnamed := (SettingsSource.given?_eq_none_iff hname).mp hgiven
      rw [Option.none_or, Variables.value?]
      cases henvironment : s.bindings.inEnvironment? (s.family ++ name) with
      | some t =>
        obtain ⟨v, hv, hvariable, rfl⟩ := Variables.exists_of_lastNamed? henvironment
        exact .environment hunnamed hv hvariable
      | none =>
        have hunset := Variables.lastNamed?_eq_none henvironment
        rw [Option.none_or, Variables.inFile?]
        cases hfile : Variables.lastNamed? (s.family ++ name) s.bindings.file with
        | some t =>
          obtain ⟨v, hv, hvariable, rfl⟩ := Variables.exists_of_lastNamed? hfile
          exact .file hunnamed hunset hv hvariable
        | none => exact .nothing hunnamed hunset (Variables.lastNamed?_eq_none hfile)
  others given given' bindings family name hname hsame := by
    -- What is looked for is among the entries that name the field.
    have hfind : ∀ q : Data × Data → Bool,
        (∀ e, q e = true → SettingsSource.spells name e = true) → given'.find? q = given.find? q := by
      intro q hq
      have hkept : ∀ es : Fields, es.find? q = (SettingsSource.naming [name] es).find? q := by
        intro es
        rw [SettingsSource.naming, List.find?_filter]
        congr 1
        funext e
        cases he : q e with
        | false => simp
        | true => simp [hq e he]
      rw [hkept given', hsame, ← hkept given]
    have hgiven : SettingsSource.given? ⟨given', bindings, family⟩ name
        = SettingsSource.given? ⟨given, bindings, family⟩ name := by
      rw [SettingsSource.given?_eq, SettingsSource.given?_eq, hfind _ fun _ => id,
        hfind _ fun e he => ?_]
      exact SettingsSource.spells_iff.mpr ⟨name, Data.sameKey_text.mp he, hname⟩
    show (SettingsSource.given? _ name).or _ = (SettingsSource.given? _ name).or _
    rw [hgiven]

end Downlevel
