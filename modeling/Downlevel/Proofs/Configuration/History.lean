import Downlevel.Proofs.Configuration.Loading
import Downlevel.Proofs.Text.Joining
/-!
# What a configuration answers

A configuration answers from the mapping that was loaded last. Loads without a file and loads that fail,
at whatever stage, change nothing, and neither does the world around it. A dotted key is followed through
nested mappings, and a value that is nothing is a value.
-/
namespace Downlevel.Configuration

/-! ## Names that are followed -/

/-- Names lead from data to a value: each of them stands in the mapping that those before it led to. -/
inductive Leads : Data → List String → Data → Prop
  | here (d : Data) : Leads d [] d
  | step {entries : Fields} {name : String} {names : List String} {value d : Data}
      (hfound : Data.field? name entries = some value) (hrest : Leads value names d) :
      Leads (.map entries) (name :: names) d

/-- Names break off: some of them lead to what is no mapping, or to a mapping without the next one. -/
inductive BreaksOff : Data → List String → Prop
  | noMapping {d : Data} (h : ¬ d.IsMapping) (name : String) (names : List String) :
      BreaksOff d (name :: names)
  | missing {entries : Fields} {name : String} (h : Data.field? name entries = none)
      (names : List String) : BreaksOff (.map entries) (name :: names)
  | later {entries : Fields} {name : String} {names : List String} {value : Data}
      (hfound : Data.field? name entries = some value) (hrest : BreaksOff value names) :
      BreaksOff (.map entries) (name :: names)

variable {d value : Data} {entries : Fields} {name : String} {names : List String}

theorem follow_map_cons (entries : Fields) (name : String) (names : List String) :
    follow (.map entries) (name :: names)
      = (Data.field? name entries).bind fun value => follow value names := by
  rw [follow, Data.get?]
  cases Data.field? name entries <;> rfl

/-- No name leads anywhere from what is no mapping. -/
theorem follow_of_not_isMapping (h : ¬ d.IsMapping) (name : String) (names : List String) :
    follow d (name :: names) = none := by
  cases d with
  | map entries => exact absurd ⟨entries, rfl⟩ h
  | _ => rfl

/-- Where names lead, they are followed to. -/
theorem Leads.follow_eq (h : Leads d names value) : follow d names = some value := by
  induction h with
  | here d => rfl
  | step hfound _ ih => rw [follow_map_cons, hfound, Option.bind_some, ih]

/-- Where names break off, nothing is found. -/
theorem BreaksOff.follow_eq (h : BreaksOff d names) : follow d names = none := by
  induction h with
  | noMapping h name names => exact follow_of_not_isMapping h name names
  | missing h names => rw [follow_map_cons, h, Option.bind_none]
  | later hfound _ ih => rw [follow_map_cons, hfound, Option.bind_some, ih]

/-- Names lead somewhere or break off. -/
theorem leads_or_breaksOff (d : Data) (names : List String) :
    (∃ value, Leads d names value) ∨ BreaksOff d names := by
  induction names generalizing d with
  | nil => exact Or.inl ⟨d, .here d⟩
  | cons name names ih =>
    by_cases hd : d.IsMapping
    · obtain ⟨entries, rfl⟩ := hd
      cases hfound : Data.field? name entries with
      | none => exact Or.inr (.missing hfound names)
      | some next =>
        rcases ih next with ⟨value, hleads⟩ | hbreaks
        · exact Or.inl ⟨value, .step hfound hleads⟩
        · exact Or.inr (.later hfound hbreaks)
    · exact Or.inr (.noMapping hd name names)

/-- Following finds a value if and only if the names lead to it. -/
theorem follow_eq_some_iff : follow d names = some value ↔ Leads d names value := by
  refine ⟨fun h => ?_, Leads.follow_eq⟩
  rcases leads_or_breaksOff d names with ⟨value', hleads⟩ | hbreaks
  · rw [hleads.follow_eq] at h
    cases h
    exact hleads
  · rw [hbreaks.follow_eq] at h
    cases h

/-- Following finds nothing if and only if the names break off. -/
theorem follow_eq_none_iff : follow d names = none ↔ BreaksOff d names := by
  refine ⟨fun h => ?_, BreaksOff.follow_eq⟩
  rcases leads_or_breaksOff d names with ⟨value, hleads⟩ | hbreaks
  · rw [hleads.follow_eq] at h
    cases h
  · exact hbreaks

/-- The segments of a dotted key. -/
structure Segments (key : String) (names : List String) : Prop where
  ne_nil : names ≠ []
  no_dot : ∀ name ∈ names, '.' ∉ name.toList
  joined : ".".intercalate names = key

/-- A key is cut into its segments. -/
theorem Segments.parts_eq {key : String} (h : Segments key names) : Text.parts '.' key = names := by
  rw [← h.joined]
  exact Text.parts_intercalate h.no_dot h.ne_nil

/-- A section is the mapping that its name leads to. -/
theorem sectionNamed_of_leads {c : Configuration} (h : Leads (.map c.entries) [name] (.map entries)) :
    c.sectionNamed name = entries := by
  cases h with
  | step hfound hrest =>
    cases hrest
    rw [sectionNamed, hfound]

/-- Without such a mapping a section is empty. -/
theorem sectionNamed_of_not_leads {c : Configuration}
    (h : ∀ entries, ¬ Leads (.map c.entries) [name] (.map entries)) : c.sectionNamed name = [] := by
  unfold sectionNamed
  split
  · rename_i entries hfound
    exact absurd (.step hfound (.here _)) (h entries)
  · rfl

/-! ## Loads in a row -/

/-- A load: the file that is named for it, or else that of the configuration, if there is one, and what
comes of it. -/
structure Call where
  file : Option Path
  outcome : Except Failure Fields

/-- The mapping that a load brings: that of a file, if it can be loaded. -/
def Call.mapping? : Call → Option Fields
  | ⟨some _, .ok entries⟩ => some entries
  | _ => none

/-- The mapping of the last load that brought one, and the empty mapping if none did. -/
def lastLoaded (calls : List Call) : Fields :=
  (calls.filterMap Call.mapping?).getLast?.getD []

/-- What happens to a configuration and around it: a load, with a file or without one, or a change of
the world. -/
inductive Event where
  | load (path : Option Path)
  | change (f : World → World)

/-- A configuration in its world, after some loads. -/
structure Past where
  configuration : Configuration
  world : World
  calls : List Call := []

namespace Past

/-- One more event. -/
def next (s : Past) : Event → Past
  | .load path =>
    let after := (reload path).runOn s.configuration s.world
    ⟨after.1.2, after.2, s.calls ++ [⟨path.or s.configuration.path, after.1.1⟩]⟩
  | .change f => { s with world := f s.world }

end Past

/-- A load without a file gives the empty mapping and changes nothing. Otherwise the content of the file
decides, and a failure changes nothing. -/
theorem runOn_reload (path : Option Path) (c : Configuration) (w : World) :
    (reload path).runOn c w = match path.or c.path with
      | none => ((.ok [], c), w)
      | some p => match entriesAt w p with
        | .ok entries => ((.ok entries, { c with entries }), w)
        | .error e => ((.error e, c), w) := by
  unfold reload
  rw [ActionOn.runOn_bind_ok (ActionOn.runOn_thing c w), ActionOn.runOn_bind, ActionOn.runOn_lift]
  cases hfile : path.or c.path with
  | none =>
    have hload : (c.load path).runIn w = (.ok ([], c), w) := by
      unfold load
      rw [hfile]
      rfl
    rw [hload]
    rfl
  | some p =>
    -- The path that was given comes before that of the configuration.
    have hload : (c.load path).runIn w = (c.load (some p)).runIn w := by
      unfold load
      rw [hfile, Option.some_or]
    rw [hload, runIn_load]
    dsimp only
    cases entriesAt w p <;> rfl

/-- The last load that succeeded is the last call, if it did, or the one before. -/
theorem lastLoaded_concat (calls : List Call) (call : Call) :
    lastLoaded (calls ++ [call]) = call.mapping?.getD (lastLoaded calls) := by
  unfold lastLoaded
  rw [List.filterMap_append]
  cases hmapping : call.mapping? with
  | none => simp [hmapping]
  | some entries => simp [hmapping]

namespace Past

variable {path : Option Path} {s : Past}

/-- A load without a file only counts as one. -/
theorem next_load_of_no_file (h : path.or s.configuration.path = none) :
    s.next (.load path) = { s with calls := s.calls ++ [⟨none, .ok []⟩] } := by
  unfold next
  dsimp only
  rw [runOn_reload, h]

/-- A load of a file counts as one, and changes the mapping if it succeeds. -/
theorem next_load_of_file {p : Path} (h : path.or s.configuration.path = some p) :
    s.next (.load path) = {
      configuration := match entriesAt s.world p with
        | .ok entries => { s.configuration with entries }
        | .error _ => s.configuration
      world := s.world
      calls := s.calls ++ [⟨some p, entriesAt s.world p⟩] } := by
  unfold next
  dsimp only
  rw [runOn_reload, h]
  dsimp only
  cases entriesAt s.world p <;> rfl

/-- A configuration keeps its file, and holds the mapping that was loaded last. -/
structure Current (path : Option Path) (s : Past) : Prop where
  path_eq : s.configuration.path = path
  entries_eq : s.configuration.entries = lastLoaded s.calls

/-- Whatever comes of one more event, the configuration is current. -/
theorem Current.next (h : s.Current path) (event : Event) : (s.next event).Current path := by
  cases event with
  | change f => exact ⟨h.path_eq, h.entries_eq⟩
  | load given =>
    cases hfile : given.or s.configuration.path with
    | none =>
      rw [next_load_of_no_file hfile]
      exact ⟨h.path_eq, by rw [lastLoaded_concat]; exact h.entries_eq⟩
    | some p =>
      rw [next_load_of_file hfile]
      cases hentries : entriesAt s.world p with
      | error e => exact ⟨h.path_eq, by rw [lastLoaded_concat]; exact h.entries_eq⟩
      | ok entries => exact ⟨h.path_eq, by rw [lastLoaded_concat]; rfl⟩

/-- A configuration stays current over any number of events. -/
theorem Current.foldl (h : s.Current path) (events : List Event) :
    (events.foldl Past.next s).Current path := by
  induction events generalizing s with
  | nil => exact h
  | cons event events ih => exact ih (h.next event)

end Past

/-- A new configuration is current after any events. -/
theorem current_foldl (path : Option Path) (w : World) (events : List Event) :
    (events.foldl Past.next ⟨{ path }, w, []⟩).Current path := by
  have hnew : Past.Current path ⟨{ path }, w, []⟩ := ⟨rfl, rfl⟩
  exact hnew.foldl events

/-- **A configuration answers from the mapping that was loaded last.** After any loads of a new
configuration and any changes of the world between them, its mapping is that of the last load that had
a file and succeeded, and empty if there was none. Its sections and its values are those in that mapping:
a key gives what its segments lead to, and there is no value exactly if they break off. -/
theorem answers_from_last_load (path : Option Path) (w : World) (events : List Event) :
    let s := events.foldl Past.next ⟨{ path }, w, []⟩
    s.configuration.entries = lastLoaded s.calls ∧
    (∀ name entries, Leads (.map (lastLoaded s.calls)) [name] (.map entries) →
      s.configuration.sectionNamed name = entries) ∧
    (∀ name, (∀ entries, ¬ Leads (.map (lastLoaded s.calls)) [name] (.map entries)) →
      s.configuration.sectionNamed name = []) ∧
    ∀ key names, Segments key names →
      (∀ value, s.configuration.get? key = some value ↔
        Leads (.map (lastLoaded s.calls)) names value) ∧
      (s.configuration.get? key = none ↔ BreaksOff (.map (lastLoaded s.calls)) names) := by
  intro s
  have hentries : s.configuration.entries = lastLoaded s.calls :=
    (current_foldl path w events).entries_eq
  rw [← hentries]
  refine ⟨rfl, fun name entries => sectionNamed_of_leads, fun name => sectionNamed_of_not_leads, ?_⟩
  intro key names hkey
  rw [get?, hkey.parts_eq]
  exact ⟨fun value => follow_eq_some_iff, follow_eq_none_iff⟩

/-! ## A file that is removed -/

/-- A machine with a configuration file in which a name within a section has no value. -/
def nestedMachine : World :=
  machineWith "a:\n  b:\n"

/-- The entries of the file. -/
def nestedEntries : Fields :=
  [(.text "a", .map [(.text "b", .null)])]

/-- The file is loaded; then it is removed, loaded in vain, and nothing is loaded without a path. -/
def nestedEvents : List Event :=
  [.load (some rootFile), .change fun w => { w with tree := .empty }, .load (some rootFile), .load none]

/-- Whether the entries of the file were read. Data are not compared by a decision procedure, as they
may hold floats. -/
def areNested : Except Failure Data → Bool
  | .ok (.map [(.text a, .map [(.text b, .null)])]) => a == "a" && b == "b"
  | _ => false

theorem eq_of_areNested {r : Except Failure Data} (h : areNested r = true) :
    r = .ok (.map nestedEntries) := by
  unfold areNested at h
  split at h
  · simp only [Bool.and_eq_true, beq_iff_eq] at h
    obtain ⟨rfl, rfl⟩ := h
    rfl
  · cases h

theorem holds_nestedMachine : Holds nestedMachine rootFile (.map nestedEntries) :=
  ⟨_, read_machineWith _, eq_of_areNested (by decide +kernel)⟩

theorem read_empty : FileTree.empty.read [] rootFile = .error .noEntry := by
  have hplace : FileTree.empty.locate [] true rootFile = .ok ["c.yaml"] :=
    FileTree.locate_in_root (by decide) (by decide) (by decide) nofun
  rw [FileTree.read, FileTree.status, hplace]
  rfl

theorem lastLoaded_nestedEvents :
    lastLoaded (nestedEvents.foldl Past.next ⟨{}, nestedMachine, []⟩).calls = nestedEntries := by
  have hloaded : entriesAt nestedMachine rootFile = .ok nestedEntries :=
    entriesAt_of_holds holds_nestedMachine
  have hremoved : ∃ e, entriesAt { nestedMachine with tree := .empty } rootFile = .error e := by
    refine ⟨readFailure rootFile (Files.failure .noEntry rootFile), ?_⟩
    have hread : FileTree.empty.read nestedMachine.cwd rootFile = .error .noEntry := read_empty
    rw [entriesAt, dataAt, hread]
  obtain ⟨e, hremoved⟩ := hremoved
  unfold nestedEvents
  rw [List.foldl_cons, Past.next_load_of_file rfl, hloaded, List.foldl_cons, Past.next, List.foldl_cons,
    Past.next_load_of_file rfl, hremoved, List.foldl_cons, Past.next_load_of_no_file rfl]
  rfl

/-- The failure to load leaves the section, and the name without a value in it has nothing as its
value. -/
theorem answers_from_last_load_nested :
    let s := nestedEvents.foldl Past.next ⟨{}, nestedMachine, []⟩
    s.configuration.get? "a.b" = some .null ∧ s.configuration.get? "a.b.c" = none ∧
      s.configuration.sectionNamed "a" = [(.text "b", .null)] := by
  intro s
  obtain ⟨-, hsection, -, hvalue⟩ := answers_from_last_load none nestedMachine nestedEvents
  rw [lastLoaded_nestedEvents] at hsection hvalue
  have hb : Leads (.map nestedEntries) ["a", "b"] .null := .step rfl (.step rfl (.here _))
  have hnull : ¬ Data.IsMapping .null := by
    rintro ⟨entries, h⟩
    cases h
  have hc : BreaksOff (.map nestedEntries) ["a", "b", "c"] :=
    .later rfl (.later rfl (.noMapping hnull _ _))
  refine ⟨?_, ?_, ?_⟩
  · exact ((hvalue "a.b" ["a", "b"] ⟨nofun, by decide, by decide⟩).1 _).mpr hb
  · exact (hvalue "a.b.c" ["a", "b", "c"] ⟨nofun, by decide, by decide⟩).2.mpr hc
  · exact hsection "a" _ (.step rfl (.here _))

end Downlevel.Configuration
