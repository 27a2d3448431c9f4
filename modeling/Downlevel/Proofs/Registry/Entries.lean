import Downlevel.Proofs.Action
import Downlevel.Proofs.Xml.Tags
import Downlevel.Registry
/-!
# Entries of a toolchains file

What an outermost element holds is read entry by entry: each child gives a toolchain, or a warning, or
nothing, and what it gives depends on itself alone. So the toolchains and the warnings of a file are
those of its parts, one after the other, and no entry can disturb another one.

Nothing of this looks at namespaces: with any namespaces for its elements a tree is read alike.
-/
namespace Downlevel.Registry

open Xml (Element)

/-! ## What an entry gives -/

/-- The toolchain that an entry gives, if it gives one. -/
def toolchain? (e : Element) : Option Toolchain :=
  if e.name = "toolchain" then (readElement e).toOption else none

/-- What is said of an entry that is passed over. -/
def ignoredText (source reason : String) : String :=
  "Ignoring " ++ reason ++ " in " ++ source

/-- The warning that an entry gives, if it gives one. -/
def warning? (source : String) (e : Element) : Option String :=
  if e.name = "toolchain" then
    match readElement e with
    | .ok _ => none
    | .error reason => some (ignoredText source reason)
  else none

/-- What is said when a file has been read. -/
def loadedText (source : String) (count : Nat) : String :=
  "Loaded " ++ toString count ++ " toolchain(s) from " ++ source

/-- A world in which warnings were given, one after the other. -/
def warned (w : World) (warnings : List String) : World :=
  warnings.foldl (fun w warning => w.recorded logger .warning warning) w

/-- Entries give their toolchains and their warnings in their order. -/
theorem runIn_readElements (source : String) (es : List Element) (w : World) :
    (readElements source es).runIn w
      = (.ok (es.filterMap toolchain?), warned w (es.filterMap (warning? source))) := by
  induction es generalizing w with
  | nil => rfl
  | cons e es ih =>
    unfold readElements
    -- An element with another name is passed over without a warning.
    by_cases hname : e.name = "toolchain"
    · rw [if_neg (not_not_intro hname)]
      cases hread : readElement e with
      | ok t =>
        have ht : toolchain? e = some t := by rw [toolchain?, if_pos hname, hread]; rfl
        have hw : warning? source e = none := by rw [warning?, if_pos hname, hread]
        rw [List.filterMap_cons_some ht, List.filterMap_cons_none hw]
        dsimp only
        rw [Action.runIn_bind_ok (ih w)]
        rfl
      | error reason =>
        have ht : toolchain? e = none := by rw [toolchain?, if_pos hname, hread]; rfl
        have hw : warning? source e = some (ignoredText source reason) := by
          rw [warning?, if_pos hname, hread]
        rw [List.filterMap_cons_none ht, List.filterMap_cons_some hw]
        dsimp only
        rw [Action.runIn_bind_ok (Action.runIn_logAs _ _ _ w), ih]
        rfl
    · have ht : toolchain? e = none := by rw [toolchain?, if_neg hname]
      have hw : warning? source e = none := by rw [warning?, if_neg hname]
      rw [if_pos hname, ih, List.filterMap_cons_none ht, List.filterMap_cons_none hw]

/-- An outermost element gives the toolchains of its entries, after their warnings. -/
theorem runIn_readRoot (source : String) (root : Element) (w : World) :
    (readRoot source root).runIn w
      = (.ok (root.children.filterMap toolchain?),
        (warned w (root.children.filterMap (warning? source))).recorded logger .debug
          (loadedText source (root.children.filterMap toolchain?).length)) := by
  unfold readRoot
  rw [Action.runIn_bind_ok (runIn_readElements source root.children w)]
  rfl

/-! ## Entries that are passed over -/

/-- An entry has no type, or no home for its type, and what is said of it. -/
inductive Flawed (e : Element) : String → Prop
  | noType (h : (e.child? "type").bind Element.content? = none) :
    Flawed e "toolchain without <type>"
  | noHome {type : String} (h : (e.child? "type").bind Element.content? = some type)
    (hhome : ((e.child? "configuration").bind (·.child? (homeElement type))).bind
      Element.content? = none) :
    Flawed e (type ++ " toolchain without <" ++ homeElement type ++ ">")

/-- A flawed entry is refused for its flaw. -/
theorem readElement_of_flawed {e : Element} {reason : String} (h : Flawed e reason) :
    readElement e = .error reason := by
  cases h with
  | noType h => rw [readElement, h]
  | noHome h hhome =>
    rw [readElement, h]
    dsimp only
    rw [hhome]

/-- An entry that is flawed gives no toolchain and one warning. -/
theorem gives_of_flawed {e : Element} {reason : String} (hname : e.name = "toolchain")
    (h : Flawed e reason) (source : String) :
    toolchain? e = none ∧ warning? source e = some (ignoredText source reason) := by
  rw [toolchain?, warning?, if_pos hname, if_pos hname, readElement_of_flawed h]
  exact ⟨rfl, rfl⟩

/-- An element of another name gives nothing. -/
theorem gives_of_ne {e : Element} (hname : e.name ≠ "toolchain") (source : String) :
    toolchain? e = none ∧ warning? source e = none := by
  rw [toolchain?, warning?, if_neg hname, if_neg hname]
  exact ⟨rfl, rfl⟩

/-! ## Namespaces -/

variable {e e' : Element}

/-- The content of a child does not depend on namespaces. -/
theorem content?_child_eq (h : e.Qualifies e') (n : String) :
    (e'.child? n).bind Element.content? = (e.child? n).bind Element.content? :=
  h.bind_child?_eq n fun _ _ hc => hc.content?_eq

/-- A fold that does not look at namespaces gives the same over qualified elements. -/
theorem foldl_qualified {f : List (String × String) → Element → List (String × String)}
    (hf : ∀ acc x x', x.Qualifies x' → f acc x' = f acc x) {es es' : List Element}
    (hes : List.Forall₂ Element.Qualifies es es') (acc : List (String × String)) :
    es'.foldl f acc = es.foldl f acc := by
  induction hes generalizing acc with
  | nil => rfl
  | cons hfirst _ ih => rw [List.foldl_cons, List.foldl_cons, hf _ _ _ hfirst, ih]

/-- What an entry provides does not depend on namespaces. -/
theorem providedBy_eq (h : e.Qualifies e') : providedBy e' = providedBy e := by
  refine foldl_qualified ?_ h.children []
  intro acc x x' hx
  rw [hx.content?_eq, hx.name_eq]

/-- What an entry is read as does not depend on namespaces. -/
theorem readElement_eq (h : e.Qualifies e') : readElement e' = readElement e := by
  have hhome : ∀ n, ((e'.child? "configuration").bind (·.child? n)).bind Element.content?
      = ((e.child? "configuration").bind (·.child? n)).bind Element.content? := by
    intro n
    rw [Option.bind_assoc, Option.bind_assoc]
    exact h.bind_child?_eq _ fun _ _ hc => content?_child_eq hc n
  have hprovides : (e'.child? "provides").map providedBy = (e.child? "provides").map providedBy := by
    rw [Option.map_eq_bind, Option.map_eq_bind]
    exact h.bind_child?_eq _ fun _ _ hc => congrArg some (providedBy_eq hc)
  rw [readElement, readElement, content?_child_eq h, hprovides]
  cases (e.child? "type").bind Element.content? with
  | none => rfl
  | some type =>
    dsimp only
    rw [hhome]

/-- What the entries are read as does not depend on namespaces. -/
theorem readElements_eq {es es' : List Element} (h : List.Forall₂ Element.Qualifies es es')
    (source : String) : readElements source es' = readElements source es := by
  induction h with
  | nil => rfl
  | cons hfirst _ ih =>
    rw [readElements, readElements, hfirst.name_eq, readElement_eq hfirst, ih]

/-- **Namespaces never matter.** Whatever namespace each element of a tree gets, or none, the tree is
read as it is without: with the same toolchains, and the same messages in every world. -/
theorem readRoot_qualified (source : String) (spaces : List Nat → Option String) (root : Element) :
    readRoot source (root.qualified spaces) = readRoot source root := by
  have hroot : root.Qualifies (root.qualified spaces) := ⟨spaces, rfl⟩
  unfold readRoot
  rw [readElements_eq hroot.children]

end Downlevel.Registry
