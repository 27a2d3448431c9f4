import Mathlib.Data.List.Forall2
import Mathlib.Data.List.TakeWhile
import Downlevel.Xml.Element
/-!
# Tags and namespaces

A local name is what stands after the last closing brace of a tag. So whatever namespace a tag has,
its local name is that of the tag without the namespace.

A tree with a namespace for each of its elements is written `Element.qualified`. The elements are
known by the way to them: the positions, among their neighbours, of those that are entered.
-/
namespace Downlevel.Xml

/-! ## Local names -/

/-- A tag without a namespace is its own local name. -/
theorem localName_of_not_mem {tag : String} (h : '}' ∉ tag.toList) : localName tag = tag := by
  have hall : ∀ c ∈ tag.toList.reverse, decide (c ≠ '}') = true := by
    intro c hc
    have hne : c ≠ '}' := by
      rintro rfl
      exact h (List.mem_reverse.mp hc)
    exact decide_eq_true hne
  rw [localName, List.takeWhile_eq_self_iff.mpr hall, List.reverse_reverse, String.ofList_toList]

/-- Nothing before a closing brace belongs to the local name. -/
theorem localName_append (front tag : String) :
    localName (front ++ "\x7d" ++ tag) = localName tag := by
  have hchars : (front ++ "\x7d" ++ tag).toList.reverse
      = tag.toList.reverse ++ '}' :: front.toList.reverse := by
    rw [String.toList_append, String.toList_append, List.reverse_append, List.reverse_append]
    rfl
  rw [localName, localName, hchars, List.takeWhile_append]
  split
  · -- The tag has no brace of its own, so the scan ends at the one in front.
    rename_i hlength
    rw [List.takeWhile_cons_of_neg (by decide), List.append_nil,
      (List.takeWhile_prefix _).eq_of_length hlength]
  · rfl

/-- A namespace does not change the local name. -/
theorem localName_qualifiedTag (space : Option String) (tag : String) :
    localName (qualifiedTag space tag) = localName tag := by
  cases space with
  | none => rfl
  | some s => exact localName_append ("\x7b" ++ s) tag

/-! ## Trees with namespaces -/

mutual

/-- A tree with a namespace, or none, for each element: the one that is given for the way to it. -/
def Element.qualified (spaces : List Nat → Option String) : Element → Element
  | .mk tag text children =>
    .mk (qualifiedTag (spaces []) tag) text (Element.qualifiedFrom spaces 0 children)

/-- Neighbours from a position on, each with the namespaces that are given for it. -/
def Element.qualifiedFrom (spaces : List Nat → Option String) (position : Nat) :
    List Element → List Element
  | [] => []
  | e :: rest => e.qualified (fun way => spaces (position :: way))
      :: Element.qualifiedFrom spaces (position + 1) rest

end

/-- An element is another one with a namespace, or none, for each element of its tree. -/
def Element.Qualifies (e e' : Element) : Prop :=
  ∃ spaces, e' = e.qualified spaces

namespace Element

variable {e e' : Element}

/-- A namespace does not change the local name. -/
theorem Qualifies.name_eq (h : e.Qualifies e') : e'.name = e.name := by
  obtain ⟨spaces, rfl⟩ := h
  cases e with
  | mk tag text children =>
    rw [qualified]
    exact localName_qualifiedTag _ tag

/-- A namespace does not change the content. -/
theorem Qualifies.content?_eq (h : e.Qualifies e') : e'.content? = e.content? := by
  obtain ⟨spaces, rfl⟩ := h
  cases e with
  | mk tag text children =>
    rw [qualified]
    rfl

theorem forall₂_qualifiedFrom (spaces : List Nat → Option String) (es : List Element)
    (position : Nat) : List.Forall₂ Qualifies es (qualifiedFrom spaces position es) := by
  induction es generalizing position with
  | nil =>
    rw [qualifiedFrom]
    exact .nil
  | cons e es ih =>
    rw [qualifiedFrom]
    exact .cons ⟨_, rfl⟩ (ih _)

/-- The children of a qualified element are the qualified children. -/
theorem Qualifies.children (h : e.Qualifies e') :
    List.Forall₂ Qualifies e.children e'.children := by
  obtain ⟨spaces, rfl⟩ := h
  cases e with
  | mk tag text children =>
    rw [qualified]
    exact forall₂_qualifiedFrom spaces children 0

/-- The first elements with a name correspond, or there is none on either side. -/
theorem rel_find?_of_forall₂ {es es' : List Element} (h : List.Forall₂ Qualifies es es')
    (n : String) :
    Option.Rel Qualifies (es.find? fun e => e.name == n) (es'.find? fun e => e.name == n) := by
  induction h with
  | nil => exact .none
  | @cons e e' es es' hfirst _ ih =>
    rw [List.find?_cons, List.find?_cons, hfirst.name_eq]
    cases e.name == n with
    | true => exact .some hfirst
    | false => exact ih

/-- A child is found under its local name, qualified. -/
theorem Qualifies.rel_child? (h : e.Qualifies e') (n : String) :
    Option.Rel Qualifies (e.child? n) (e'.child? n) :=
  rel_find?_of_forall₂ h.children n

/-- What is read off the first child with a name is the same, if it is the same for all elements
that correspond. -/
theorem Qualifies.bind_child?_eq {α : Type} (h : e.Qualifies e') (n : String)
    {f : Element → Option α} (hf : ∀ c c', c.Qualifies c' → f c' = f c) :
    (e'.child? n).bind f = (e.child? n).bind f := by
  have hchild := h.rel_child? n
  generalize e.child? n = c, e'.child? n = c' at hchild ⊢
  cases hchild with
  | none => rfl
  | some hc => exact hf _ _ hc

end Element

end Downlevel.Xml
