import Downlevel.FileTree
/-!
# Nodes of a changed tree

Which node stands at a place after a node was put, was taken away, or had bytes added to it. Two
trees are compared but for the contents of their files: what matters on the way to a place is
whether a node is a file, a directory, or a link and where it leads.
-/
namespace Downlevel

namespace Node

/-- A node without the contents of a file. -/
def outline : Node → Node
  | .file _ _ _ => .file 0 false []
  | n => n

/-- A node after an addition to the file with an identity. -/
def extended (id : Nat) (more : List UInt8) : Node → Node
  | .file i x bytes => if i = id then .file i x (bytes ++ more) else .file i x bytes
  | n => n

/-- A file that grows keeps its outline. -/
theorem outline_extended (id : Nat) (more : List UInt8) (n : Node) :
    (n.extended id more).outline = n.outline := by
  cases n with
  | file i x bytes =>
    rw [extended]
    split <;> rfl
  | directory => rfl
  | link target => rfl

theorem eq_directory_of_outline {n n' : Node} (h : n'.outline = n.outline) (hn : n = .directory) :
    n' = .directory := by
  subst hn
  cases n' with
  | file _ _ _ => cases h
  | directory => rfl
  | link _ => cases h

theorem eq_link_of_outline {n n' : Node} {target : String} (h : n'.outline = n.outline)
    (hn : n = .link target) : n' = .link target := by
  subst hn
  cases n' with
  | file _ _ _ => cases h
  | directory => cases h
  | link _ => exact h

end Node

namespace FileTree

variable {t t' : FileTree} {p q : Place}

/-! ## Lists of pairs -/

theorem lookup_filter_ne {α β : Type} [BEq α] [LawfulBEq α] [DecidableEq α] {a b : α} (h : a ≠ b)
    (es : List (α × β)) : (es.filter fun e => e.1 ≠ b).lookup a = es.lookup a := by
  induction es with
  | nil => rfl
  | cons e es ih =>
    obtain ⟨k, v⟩ := e
    by_cases hk : k = b
    · have hak : a ≠ k := hk ▸ h
      rw [List.filter_cons_of_neg (by simpa using hk), ih, List.lookup_cons,
        beq_false_of_ne hak]
    · rw [List.filter_cons_of_pos (by simpa using hk), List.lookup_cons, List.lookup_cons, ih]

theorem lookup_filter_self {α β : Type} [BEq α] [LawfulBEq α] [DecidableEq α] (a : α)
    (es : List (α × β)) : (es.filter fun e => e.1 ≠ a).lookup a = none := by
  rw [List.lookup_eq_none_iff]
  intro e he
  have hne : e.1 ≠ a := by simpa using (List.mem_filter.mp he).2
  exact bne_iff_ne.mpr hne.symm

/-- Changing the values changes what is found. -/
theorem lookup_map_snd {α β : Type} [BEq α] (f : β → β) (a : α) (es : List (α × β)) :
    (es.map fun e => (e.1, f e.2)).lookup a = (es.lookup a).map f := by
  induction es with
  | nil => rfl
  | cons e es ih =>
    rw [List.map_cons, List.lookup_cons, List.lookup_cons, ih]
    cases a == e.1 <;> rfl

/-! ## Nodes after a change -/

/-- Trees with the same closed directories refuse the same names. -/
theorem refusal?_congr (h : t'.closed = t.closed) : t'.refusal? = t.refusal? := by
  funext place n
  rw [refusal?, refusal?, h]

theorem find?_root (t : FileTree) : t.find? [] = some .directory := rfl

theorem ne_root_of_find? (h : t.find? p ≠ some .directory) : p ≠ [] := by
  rintro rfl
  exact h rfl

/-- What stands at a place is listed, but for the root. -/
theorem mem_nodes_of_find? {n : Node} (hp : p ≠ []) (h : t.find? p = some n) : (p, n) ∈ t.nodes := by
  rw [find?, if_neg hp] at h
  obtain ⟨before, after, hnodes, -⟩ := List.lookup_eq_some_iff.mp h
  rw [hnodes]
  exact List.mem_append_right _ List.mem_cons_self

/-- Putting something at a place changes no other place. -/
theorem find?_put_of_ne (h : q ≠ p) (n : Node) : (t.put p n).find? q = t.find? q := by
  unfold find? put
  rw [List.lookup_cons, beq_false_of_ne h]
  dsimp only
  rw [lookup_filter_ne h]

theorem find?_take_self (h : p ≠ []) : (t.take p).find? p = none := by
  unfold find? take
  rw [if_neg h]
  exact lookup_filter_self p t.nodes

theorem find?_take_of_ne (h : q ≠ p) : (t.take p).find? q = t.find? q := by
  unfold find? take
  dsimp only
  rw [lookup_filter_ne h]

/-- Appending to a file changes what stands at the places of that file. -/
theorem find?_append (id : Nat) (more : List UInt8) (q : Place) :
    (t.append id more).find? q = (t.find? q).map (Node.extended id more) := by
  have hnodes : (t.append id more).nodes = t.nodes.map fun e => (e.1, e.2.extended id more) := by
    unfold append
    apply List.map_congr_left
    rintro ⟨place, n⟩ -
    cases n with
    | file i x bytes =>
      simp only [Node.extended]
      split <;> rfl
    | directory => rfl
    | link target => rfl
  unfold find?
  rw [hnodes, lookup_map_snd]
  split <;> rfl

/-- An addition to another file leaves a file as it is. -/
theorem find?_append_of_ne {id i : Nat} {x : Bool} {bytes : List UInt8} (hid : i ≠ id)
    (h : t.find? q = some (.file i x bytes)) (more : List UInt8) :
    (t.append id more).find? q = some (.file i x bytes) := by
  rw [find?_append, h, Option.map_some, Node.extended, if_neg hid]

/-- A file that was appended to ends with what was appended. -/
theorem find?_append_self {id : Nat} {x : Bool} {bytes : List UInt8}
    (h : t.find? q = some (.file id x bytes)) (more : List UInt8) :
    (t.append id more).find? q = some (.file id x (bytes ++ more)) := by
  rw [find?_append, h, Option.map_some, Node.extended, if_pos rfl]

/-! ## Parts of trees -/

/-- Every node of a tree stands in another one too, but for the contents of files, and the same
directories are closed. -/
structure IsPartOf (t t' : FileTree) : Prop where
  closed : t'.closed = t.closed
  node : ∀ q n, t.find? q = some n → ∃ n', t'.find? q = some n' ∧ n'.outline = n.outline

theorem IsPartOf.refl (t : FileTree) : t.IsPartOf t :=
  ⟨rfl, fun _ n h => ⟨n, h, rfl⟩⟩

theorem IsPartOf.trans {t'' : FileTree} (h : t.IsPartOf t') (h' : t'.IsPartOf t'') :
    t.IsPartOf t'' := by
  refine ⟨h'.closed.trans h.closed, fun q n hn => ?_⟩
  obtain ⟨n', hn', ho⟩ := h.node q n hn
  obtain ⟨n'', hn'', ho'⟩ := h'.node q n' hn'
  exact ⟨n'', hn'', ho'.trans ho⟩

/-- A tree in which a file grew has what it had. -/
theorem isPartOf_append (t : FileTree) (id : Nat) (more : List UInt8) :
    t.IsPartOf (t.append id more) := by
  refine ⟨rfl, fun q n hn => ?_⟩
  refine ⟨n.extended id more, ?_, Node.outline_extended id more n⟩
  rw [find?_append, hn, Option.map_some]

/-- A tree in which a file grew has nothing new. -/
theorem append_isPartOf (t : FileTree) (id : Nat) (more : List UInt8) :
    (t.append id more).IsPartOf t := by
  refine ⟨rfl, fun q n hn => ?_⟩
  rw [find?_append] at hn
  obtain ⟨n', hn', rfl⟩ := Option.map_eq_some_iff.mp hn
  exact ⟨n', hn', (Node.outline_extended id more n').symm⟩

/-- Taking something away leaves a part. -/
theorem take_isPartOf (t : FileTree) (p : Place) : (t.take p).IsPartOf t := by
  refine ⟨rfl, fun q n hn => ?_⟩
  by_cases hq : q = p
  · subst hq
    by_cases hroot : q = []
    · subst hroot
      exact ⟨n, hn, rfl⟩
    · rw [find?_take_self hroot] at hn
      cases hn
  · rw [find?_take_of_ne hq] at hn
    exact ⟨n, hn, rfl⟩

/-- A node that is put at a vacant place adds to a tree. -/
theorem isPartOf_put (h : t.find? p = none) (n : Node) : t.IsPartOf (t.put p n) := by
  refine ⟨rfl, fun q m hm => ?_⟩
  have hq : q ≠ p := by
    rintro rfl
    rw [h] at hm
    cases hm
  exact ⟨m, by rw [find?_put_of_ne hq, hm], rfl⟩

/-- A node that is put over one of the same outline changes contents only. -/
theorem isPartOf_put_outline {n m : Node} (h : t.find? p = some n) (hm : m.outline = n.outline)
    (hp : p ≠ []) : t.IsPartOf (t.put p m) := by
  refine ⟨rfl, fun q k hk => ?_⟩
  by_cases hq : q = p
  · subst hq
    rw [h] at hk
    cases hk
    exact ⟨m, find?_put_self hp, hm⟩
  · exact ⟨k, by rw [find?_put_of_ne hq, hk], rfl⟩

end FileTree

end Downlevel
