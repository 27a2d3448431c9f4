import Downlevel.Proofs.FileTree.Entry
/-!
# Trees of the same shape

Two trees have the same shape if they have the same places, with the same kinds of nodes and the same
targets of links. Paths lead to the same places in them, or are refused alike, and at the end of a
path both have a file, or neither has one.
-/
namespace Downlevel.FileTree

variable {t t' : FileTree} {cwd : Place} {p : Path}

/-- The nodes are the same but for the contents of files, and the same directories are closed. -/
structure SameShape (t t' : FileTree) : Prop where
  closed : t'.closed = t.closed
  outline : ∀ q, (t'.find? q).map Node.outline = (t.find? q).map Node.outline

/-- Trees that are parts of each other have the same shape. -/
theorem sameShape_of_isPartOf (h : t.IsPartOf t') (h' : t'.IsPartOf t) : t.SameShape t' := by
  refine ⟨h.closed, fun q => ?_⟩
  cases hnode : t.find? q with
  | some n =>
    obtain ⟨n', hn', ho⟩ := h.node q n hnode
    rw [hn', Option.map_some, Option.map_some, ho]
  | none =>
    cases hnode' : t'.find? q with
    | none => rfl
    | some n' =>
      obtain ⟨n, hn, -⟩ := h'.node q n' hnode'
      rw [hnode] at hn
      cases hn

namespace SameShape

variable {q : Place}

theorem none (h : t.SameShape t') (hq : t.find? q = .none) : t'.find? q = .none := by
  have hmap := h.outline q
  rw [hq, Option.map_none] at hmap
  exact Option.map_eq_none_iff.mp hmap

/-- What stands somewhere keeps its outline. -/
theorem some (h : t.SameShape t') {n : Node} (hq : t.find? q = .some n) :
    ∃ n', t'.find? q = .some n' ∧ n'.outline = n.outline := by
  have hmap := h.outline q
  rw [hq, Option.map_some] at hmap
  exact Option.map_eq_some_iff.mp hmap

theorem directory (h : t.SameShape t') (hq : t.find? q = .some .directory) :
    t'.find? q = .some .directory := by
  obtain ⟨n', hn', ho⟩ := h.some hq
  rw [hn', Node.eq_directory_of_outline ho rfl]

theorem link (h : t.SameShape t') {target : String} (hq : t.find? q = .some (.link target)) :
    t'.find? q = .some (.link target) := by
  obtain ⟨n', hn', ho⟩ := h.some hq
  rw [hn', Node.eq_link_of_outline ho rfl]

theorem file (h : t.SameShape t') {id : Nat} {x : Bool} {bytes : List UInt8}
    (hq : t.find? q = .some (.file id x bytes)) :
    ∃ id' x' bytes', t'.find? q = .some (.file id' x' bytes') := by
  obtain ⟨n', hn', ho⟩ := h.some hq
  cases n' with
  | file id' x' bytes' => exact ⟨id', x', bytes', hn'⟩
  | directory => cases ho
  | link target => cases ho

/-- A way is the same in both trees. -/
theorem walk (h : t.SameShape t') (f : Bool) (links : Nat) (at_ : Place) (names : List String) :
    t'.walk f links at_ names = t.walk f links at_ names := by
  have hsame := refusal?_congr h.closed
  -- The cases are those of the walk. At each name the other tree has a node of the same kind.
  induction links, at_, names using FileTree.walk.induct t f with
  | case1 links at_ => rw [FileTree.walk, FileTree.walk]
  | case2 links at_ n rest e hrefused =>
    rw [walk_refused hrefused, walk_refused (hsame ▸ hrefused)]
  | case3 links at_ rest hopen ih => rw [walk_dot hopen, walk_dot (hsame ▸ hopen), ih]
  | case4 links at_ rest hopen hdot ih => rw [walk_dots hopen, walk_dots (hsame ▸ hopen), ih]
  | case5 links at_ n rest hopen hdot hdots place hnode hlast =>
    rw [walk_cons hopen hdot hdots, walk_cons (hsame ▸ hopen) hdot hdots, hnode, h.none hnode]
  | case6 links at_ n rest hopen hdot hdots place hnode hlast =>
    rw [walk_cons hopen hdot hdots, walk_cons (hsame ▸ hopen) hdot hdots, hnode, h.none hnode]
  | case7 links at_ n rest hopen hdot hdots place hnode ih =>
    rw [walk_cons hopen hdot hdots, walk_cons (hsame ▸ hopen) hdot hdots, hnode,
      h.directory hnode]
    exact ih
  | case8 links at_ n rest hopen hdot hdots place id x bytes hnode hlast =>
    obtain ⟨id', x', bytes', hnode'⟩ := h.file hnode
    rw [walk_cons hopen hdot hdots, walk_cons (hsame ▸ hopen) hdot hdots, hnode, hnode']
  | case9 links at_ n rest hopen hdot hdots place id x bytes hnode hlast =>
    obtain ⟨id', x', bytes', hnode'⟩ := h.file hnode
    rw [walk_cons hopen hdot hdots, walk_cons (hsame ▸ hopen) hdot hdots, hnode, hnode']
  | case10 links at_ n rest hopen hdot hdots place target hnode hstop =>
    rw [walk_cons hopen hdot hdots, walk_cons (hsame ▸ hopen) hdot hdots, hnode, h.link hnode]
    dsimp only
    rw [if_pos hstop, if_pos hstop]
  | case11 at_ n rest hopen hdot hdots place target hnode hstop =>
    rw [walk_cons hopen hdot hdots, walk_cons (hsame ▸ hopen) hdot hdots, hnode, h.link hnode]
  | case12 at_ n rest hopen hdot hdots place target hnode hstop links ih =>
    rw [walk_cons hopen hdot hdots, walk_cons (hsame ▸ hopen) hdot hdots, hnode, h.link hnode]
    dsimp only
    rw [if_neg hstop, if_neg hstop]
    exact ih

/-- A path leads to the same place in both trees. -/
theorem locate (h : t.SameShape t') (cwd : Place) (f : Bool) (p : Path) :
    t'.locate cwd f p = t.locate cwd f p := by
  rw [FileTree.locate, FileTree.locate, h.walk]

/-- At the end of a path is the same kind of node, or the path is refused for the same reason. -/
theorem status (h : t.SameShape t') (cwd : Place) (p : Path) :
    (t'.status cwd p).map Node.outline = (t.status cwd p).map Node.outline := by
  unfold FileTree.status
  rw [h.locate]
  cases t.locate cwd true p with
  | error e => rfl
  | ok place =>
    dsimp only
    cases hnode : t.find? place with
    | none => rw [h.none hnode]
    | some n =>
      obtain ⟨n', hnode', ho⟩ := h.some hnode
      rw [hnode']
      exact congrArg Except.ok ho

/-- A look finds the same kind of node, or is refused for the same reason. -/
theorem look (h : t.SameShape t') (cwd : Place) (p : Path) :
    (t'.look cwd p).map (Option.map Node.outline) = (t.look cwd p).map (Option.map Node.outline) := by
  have hstatus := h.status cwd p
  unfold FileTree.look
  generalize t.status cwd p = s at hstatus ⊢
  generalize t'.status cwd p = s' at hstatus ⊢
  rcases s with e | n <;> rcases s' with e' | n'
  · cases hstatus
    rfl
  · cases hstatus
  · cases hstatus
  · exact congrArg (Except.ok ∘ Option.some) (Except.ok.inj hstatus)

/-- Whether a path is a file depends on the shape alone. -/
theorem isFile (h : t.SameShape t') (cwd : Place) (p : Path) :
    t'.isFile cwd p = t.isFile cwd p := by
  have hlook := h.look cwd p
  unfold FileTree.isFile
  generalize t.look cwd p = s at hlook ⊢
  generalize t'.look cwd p = s' at hlook ⊢
  match s, s', hlook with
  | .error e, .error e', h => exact congrArg Except.error (Except.error.inj h)
  | .ok .none, .ok .none, _ => rfl
  | .ok (.some n), .ok (.some n'), h =>
    have houtline : n'.outline = n.outline := Option.some.inj (Except.ok.inj h)
    cases n <;> cases n' <;> first | rfl | cases houtline

/-- Whether there is something at a path depends on the shape alone. -/
theorem holds (h : t.SameShape t') (cwd : Place) (p : Path) : t'.holds cwd p = t.holds cwd p := by
  have houtline : ∀ u : FileTree, u.holds cwd p
      = ((u.look cwd p).map (Option.map Node.outline)).map Option.isSome := by
    intro u
    unfold FileTree.holds
    rcases u.look cwd p with e | _ | n <;> rfl
  rw [houtline t', houtline t, h.look]

end SameShape

/-- An addition of nothing is none. -/
theorem append_nil (t : FileTree) (id : Nat) : t.append id [] = t := by
  have hnodes : (t.append id []).nodes = t.nodes := by
    refine (List.map_congr_left ?_).trans (List.map_id' t.nodes)
    rintro ⟨q, ⟨i, x, bytes⟩ | _ | _⟩ -
    · dsimp only
      rw [List.append_nil, ite_self]
    · rfl
    · rfl
  show FileTree.mk (t.append id []).nodes t.closed = t
  rw [hnodes]

/-- An addition to a file is seen at the end of every path to it, and nowhere else. -/
theorem status_append (t : FileTree) (id : Nat) (more : List UInt8) (cwd : Place) (p : Path) :
    (t.append id more).status cwd p = (t.status cwd p).map (Node.extended id more) := by
  have hshape : t.SameShape (t.append id more) :=
    sameShape_of_isPartOf (isPartOf_append t id more) (append_isPartOf t id more)
  unfold status
  rw [hshape.locate]
  cases t.locate cwd true p with
  | error e => rfl
  | ok place =>
    dsimp only
    rw [find?_append]
    cases t.find? place <;> rfl

end Downlevel.FileTree
