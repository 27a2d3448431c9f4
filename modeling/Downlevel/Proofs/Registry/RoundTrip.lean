import Downlevel.Proofs.Registry.Entries
import Downlevel.Proofs.Text.Paths
import Downlevel.Proofs.Text.Stripping
/-!
# Toolchains written and read

Toolchains are written as the tree of a toolchains file: an entry for each of them, with its type, an
element for each thing that it provides, and its home under the name that its type asks for. Reading
the tree gives the same toolchains in the same order, without a warning. Entries of a file that cannot
be used are passed over, each with one warning, and the toolchains around them are what they are
without.
-/
namespace Downlevel

/-! ## Elements that hold a text -/

namespace Text

/-- A text that can be the content of an element: it is not empty, and no blanks stand around it. -/
structure IsContent (s : String) : Prop where
  ne_empty : s ≠ ""
  bare : Bare s.toList

instance (s : String) : Decidable (IsContent s) :=
  decidable_of_iff (s ≠ "" ∧ Bare s.toList) ⟨fun h => ⟨h.1, h.2⟩, fun h => ⟨h.ne_empty, h.bare⟩⟩

/-- A bare text has nothing to strip. -/
theorem strip_of_bare {cs : List Char} (h : Bare cs) : strip cs = cs := by
  have hstrip : strip ([] ++ cs ++ []) = cs := strip_surrounded rfl rfl h
  rwa [List.nil_append, List.append_nil] at hstrip

end Text

namespace Xml

/-- An element that holds a text alone. -/
def leaf (tag text : String) : Element :=
  .mk tag text.toList []

theorem name_leaf {tag : String} (h : '}' ∉ tag.toList) (text : String) :
    (leaf tag text).name = tag :=
  localName_of_not_mem h

/-- The first child with a name is found. -/
theorem child?_cons (tag : String) (text : List Char) (c : Element) (cs : List Element)
    (n : String) : (Element.mk tag text (c :: cs)).child? n
      = if c.name = n then some c else (Element.mk tag text cs).child? n := by
  unfold Element.child?
  rw [Element.children, List.find?_cons]
  by_cases hname : c.name = n
  · rw [if_pos hname, beq_iff_eq.mpr hname]
  · rw [if_neg hname, beq_false_of_ne hname]
    rfl

/-- The content of a leaf is its text. -/
theorem content?_leaf {text : String} (h : Text.IsContent text) (tag : String) :
    (leaf tag text).content? = some text := by
  have hsome : text.toList.isEmpty = false := by
    cases hchars : text.toList with
    | nil => exact absurd (String.toList_eq_nil_iff.mp hchars) h.ne_empty
    | cons c cs => rfl
  unfold Element.content?
  show (if (Text.strip text.toList).isEmpty then none
    else some (String.ofList (Text.strip text.toList))) = some text
  rw [Text.strip_of_bare h.bare, hsome, if_neg Bool.false_ne_true, String.ofList_toList]

end Xml

/-! ## Writing a toolchain -/

namespace Toolchain

/-- The entry of a toolchain in a file. -/
def element (t : Toolchain) : Xml.Element :=
  .mk "toolchain" []
    [Xml.leaf "type" t.type,
     .mk "provides" [] (t.provides.map fun e => Xml.leaf e.1 e.2),
     .mk "configuration" [] [Xml.leaf (Registry.homeElement t.type) t.home.toString]]

/-- A toolchain whose parts can be written: texts that can be contents, a home that its text reads
as, and different keys that can be tags. A name of XML can, since it has no brace. -/
structure Writable (t : Toolchain) : Prop where
  type : Text.IsContent t.type
  home : t.home.Normal
  home_bare : Text.Bare t.home.toString.toList
  values : ∀ e ∈ t.provides, Text.IsContent e.2
  keys : ∀ e ∈ t.provides, '}' ∉ e.1.toList
  keys_nodup : (t.provides.map Prod.fst).Nodup

end Toolchain

namespace Registry

open Xml (Element)

/-- The outermost element of a file with toolchains. -/
def rendered (ts : List Toolchain) : Element :=
  .mk "toolchains" [] (ts.map Toolchain.element)

/-- A new key is put behind the others. -/
theorem setProvided_of_not_mem {key : String} {acc : List (String × String)}
    (h : key ∉ acc.map Prod.fst) (value : String) :
    setProvided key value acc = acc ++ [(key, value)] := by
  induction acc with
  | nil => rfl
  | cons e acc ih =>
    obtain ⟨k, v⟩ := e
    rw [List.map_cons, List.mem_cons, not_or] at h
    rw [setProvided, if_neg fun heq => h.1 heq.symm, ih h.2]
    rfl

/-- Reading leaves one after the other appends them, as long as each sets what it says. The keys that
were read before are different from those that are still to come. -/
theorem foldl_leaves {f : List (String × String) → Xml.Element → List (String × String)}
    {entries : List (String × String)}
    (hf : ∀ acc, ∀ e ∈ entries, f acc (Xml.leaf e.1 e.2) = setProvided e.1 e.2 acc)
    (acc : List (String × String)) (hnodup : (acc.map Prod.fst ++ entries.map Prod.fst).Nodup) :
    (entries.map fun e => Xml.leaf e.1 e.2).foldl f acc = acc ++ entries := by
  induction entries generalizing acc with
  | nil => exact (List.append_nil acc).symm
  | cons e entries ih =>
    have hkey : e.1 ∉ acc.map Prod.fst := by
      intro hmem
      exact (List.nodup_append.mp hnodup).2.2 _ hmem _ List.mem_cons_self rfl
    rw [List.map_cons, List.foldl_cons, hf _ e List.mem_cons_self, setProvided_of_not_mem hkey,
      ih fun acc x hx => hf acc x (List.mem_cons_of_mem _ hx)]
    · rw [List.append_assoc, List.singleton_append]
    · rw [List.map_append, List.append_assoc]
      exact hnodup

/-- What is written with different keys is provided in its order. -/
theorem providedBy_leaves {entries : List (String × String)}
    (hvalues : ∀ e ∈ entries, Text.IsContent e.2) (hkeys : ∀ e ∈ entries, '}' ∉ e.1.toList)
    (hnodup : (entries.map Prod.fst).Nodup) (tag : String) (text : List Char) :
    providedBy (.mk tag text (entries.map fun e => Xml.leaf e.1 e.2)) = entries := by
  refine foldl_leaves ?_ [] hnodup
  intro acc e he
  rw [Xml.content?_leaf (hvalues e he), Xml.name_leaf (hkeys e he)]

/-- The name of the element for the home has no namespace. -/
theorem brace_not_mem_homeElement (type : String) : '}' ∉ (homeElement type).toList := by
  rw [homeElement]
  split <;> decide

/-- The three parts of an entry have their names. -/
theorem name_part {n : String} (h : n ∈ ["type", "provides", "configuration"])
    (text : List Char) (children : List Element) : (Element.mk n text children).name = n := by
  apply Xml.localName_of_not_mem
  show '}' ∉ n.toList
  revert n
  decide

variable {t : Toolchain}

theorem child?_element_type : t.element.child? "type" = some (Xml.leaf "type" t.type) := by
  have htype : (Xml.leaf "type" t.type).name = "type" := name_part (by decide) _ _
  rw [Toolchain.element, Xml.child?_cons, if_pos htype]

theorem child?_element_provides : t.element.child? "provides"
    = some (.mk "provides" [] (t.provides.map fun e => Xml.leaf e.1 e.2)) := by
  have htype : (Xml.leaf "type" t.type).name ≠ "provides" := by
    rw [Xml.leaf, name_part (by decide)]
    decide
  rw [Toolchain.element, Xml.child?_cons, if_neg htype, Xml.child?_cons,
    if_pos (name_part (by decide) _ _)]

theorem child?_element_configuration : t.element.child? "configuration"
    = some (.mk "configuration" [] [Xml.leaf (homeElement t.type) t.home.toString]) := by
  have htype : (Xml.leaf "type" t.type).name ≠ "configuration" := by
    rw [Xml.leaf, name_part (by decide)]
    decide
  have hprovides : (Element.mk "provides" [] (t.provides.map fun e => Xml.leaf e.1 e.2)).name
      ≠ "configuration" := by
    rw [name_part (by decide)]
    decide
  rw [Toolchain.element, Xml.child?_cons, if_neg htype, Xml.child?_cons, if_neg hprovides,
    Xml.child?_cons, if_pos (name_part (by decide) _ _)]

/-- The entry of a toolchain is read as the toolchain. -/
theorem readElement_element (h : t.Writable) : readElement t.element = .ok t := by
  have hhome : (Element.mk "configuration" [] [Xml.leaf (homeElement t.type) t.home.toString]).child?
      (homeElement t.type) = some (Xml.leaf (homeElement t.type) t.home.toString) := by
    rw [Xml.child?_cons, if_pos (Xml.name_leaf (brace_not_mem_homeElement t.type) _)]
  have hcontent : Text.IsContent t.home.toString := ⟨Path.toString_ne_empty h.home, h.home_bare⟩
  rw [readElement, child?_element_type, Option.bind_some, Xml.content?_leaf h.type]
  dsimp only
  rw [child?_element_configuration, Option.bind_some, hhome, Option.bind_some,
    Xml.content?_leaf hcontent, child?_element_provides, Option.map_some, providedBy_leaves h.values h.keys h.keys_nodup]
  dsimp only
  rw [Path.ofString_toString h.home]
  rfl

/-- A written entry is read back, without a warning. -/
theorem gives_element (h : t.Writable) (source : String) :
    toolchain? t.element = some t ∧ warning? source t.element = none := by
  have hname : t.element.name = "toolchain" := by
    apply Xml.localName_of_not_mem
    show '}' ∉ "toolchain".toList
    decide
  rw [toolchain?, warning?, if_pos hname, if_pos hname, readElement_element h]
  exact ⟨rfl, rfl⟩

/-! ## Reading what was written -/

/-- In every world, an outermost element gives toolchains: first come warnings, then the number of the
toolchains is told, and that is all. -/
def Gives (source : String) (root : Element) (ts : List Toolchain) (warnings : List String) : Prop :=
  ∀ w, (readRoot source root).runIn w
    = (.ok ts, (warned w warnings).recorded logger .debug (loadedText source ts.length))

/-- Reading gives the entries that can be read, and a warning for each of the others. -/
theorem gives (source : String) (tag : String) (text : List Char) (es : List Element) :
    Gives source (.mk tag text es) (es.filterMap toolchain?) (es.filterMap (warning? source)) :=
  fun w => runIn_readRoot source (.mk tag text es) w

/-- Written entries are all read back, without a warning. -/
theorem filterMap_elements {ts : List Toolchain} (h : ∀ t ∈ ts, t.Writable) (source : String) :
    (ts.map Toolchain.element).filterMap toolchain? = ts ∧
      (ts.map Toolchain.element).filterMap (warning? source) = [] := by
  induction ts with
  | nil => exact ⟨rfl, rfl⟩
  | cons t ts ih =>
    obtain ⟨ihRead, ihWarned⟩ := ih fun u hu => h u (List.mem_cons_of_mem _ hu)
    obtain ⟨hread, hwarned⟩ := gives_element (h t List.mem_cons_self) source
    rw [List.map_cons, List.filterMap_cons_some hread, List.filterMap_cons_none hwarned, ihRead,
      ihWarned]
    exact ⟨rfl, rfl⟩

/-- **Toolchains are read as they were written, and entries leave each other alone.** What is written
of toolchains is read as the same toolchains in their order, without a warning. The entries of two
parts of any tree give what the parts give, one after the other. So wherever an element of another
name stands, it is as if it were not there, and an entry without a type, or without a home for its
type, costs one warning and changes nothing else. -/
theorem toolchains_round_trip (source : String) {ts : List Toolchain}
    (h : ∀ t ∈ ts, t.Writable) :
    Gives source (rendered ts) ts [] ∧
    (∀ tag text xs ys, ∃ found more warnings moreWarnings,
      Gives source (.mk tag text xs) found warnings ∧
      Gives source (.mk tag text ys) more moreWarnings ∧
      Gives source (.mk tag text (xs ++ ys)) (found ++ more) (warnings ++ moreWarnings)) ∧
    (∀ tag text xs e ys, e.name ≠ "toolchain" → ∃ found warnings,
      Gives source (.mk tag text (xs ++ ys)) found warnings ∧
      Gives source (.mk tag text (xs ++ e :: ys)) found warnings) ∧
    (∀ tag text xs e ys reason, e.name = "toolchain" → Flawed e reason →
      ∃ found warnings moreWarnings,
        Gives source (.mk tag text (xs ++ ys)) found (warnings ++ moreWarnings) ∧
        Gives source (.mk tag text (xs ++ e :: ys)) found
          (warnings ++ ignoredText source reason :: moreWarnings)) := by
  -- All four parts follow from what reading gives for each element by itself.
  refine ⟨?_, ?_, ?_, ?_⟩
  · obtain ⟨hread, hwarned⟩ := filterMap_elements h source
    have hgives := gives source "toolchains" [] (ts.map Toolchain.element)
    rwa [hread, hwarned] at hgives
  · intro tag text xs ys
    refine ⟨_, _, _, _, gives source tag text xs, gives source tag text ys, ?_⟩
    rw [← List.filterMap_append, ← List.filterMap_append]
    exact gives source tag text (xs ++ ys)
  · intro tag text xs e ys hname
    obtain ⟨hnone, hsilent⟩ := gives_of_ne hname source
    have hgives := gives source tag text (xs ++ e :: ys)
    rw [List.filterMap_append, List.filterMap_append, List.filterMap_cons_none hnone,
      List.filterMap_cons_none hsilent, ← List.filterMap_append, ← List.filterMap_append] at hgives
    exact ⟨_, _, gives source tag text (xs ++ ys), hgives⟩
  · intro tag text xs e ys reason hname hflawed
    obtain ⟨hnone, hwarns⟩ := gives_of_flawed hname hflawed source
    have hwithout := gives source tag text (xs ++ ys)
    have hwith := gives source tag text (xs ++ e :: ys)
    rw [List.filterMap_append, List.filterMap_append] at hwithout
    rw [List.filterMap_append, List.filterMap_append, List.filterMap_cons_none hnone,
      List.filterMap_cons_some hwarns] at hwith
    exact ⟨_, _, _, hwithout, hwith⟩

/-- An entry without a type between two toolchains of different types. -/
theorem toolchains_round_trip_flawed :
    let jdk : Toolchain :=
      ⟨"jdk", [("version", "1.8"), ("vendor", "open jdk")], ⟨.root, ["opt", "jdk8"]⟩⟩
    let ide : Toolchain := ⟨"netbeans", [], ⟨.here, []⟩⟩
    Gives "t.xml" (rendered [jdk, ide]) [jdk, ide] [] ∧
    ∃ found warnings moreWarnings,
      Gives "t.xml" (.mk "toolchains" [] [jdk.element, ide.element]) found
        (warnings ++ moreWarnings) ∧
      Gives "t.xml" (.mk "toolchains" [] [jdk.element, .mk "toolchain" [] [], ide.element]) found
        (warnings ++ "Ignoring toolchain without <type> in t.xml" :: moreWarnings) := by
  intro jdk ide
  have hjdk : jdk.Writable := by constructor <;> decide +kernel
  have hide : ide.Writable := by constructor <;> decide +kernel
  have hall : ∀ t ∈ [jdk, ide], t.Writable := by
    intro t ht
    rcases List.mem_cons.mp ht with rfl | ht
    · exact hjdk
    · rwa [List.mem_singleton.mp ht]
  obtain ⟨hread, -, -, hflawed⟩ := toolchains_round_trip "t.xml" hall
  have hname : (Element.mk "toolchain" [] []).name = "toolchain" :=
    Xml.localName_of_not_mem (by decide)
  have htext : ignoredText "t.xml" "toolchain without <type>"
      = "Ignoring toolchain without <type> in t.xml" := by decide
  -- The entry in the middle has no type.
  obtain ⟨found, warnings, moreWarnings, hwithout, hwith⟩ := hflawed "toolchains" [] [jdk.element]
    (.mk "toolchain" [] []) [ide.element] _ hname (.noType rfl)
  rw [htext] at hwith
  exact ⟨hread, found, warnings, moreWarnings, hwithout, hwith⟩

end Registry

end Downlevel
