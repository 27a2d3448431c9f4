import Downlevel.Proofs.FileTree.Changes
import Downlevel.Proofs.FileTree.Shape
/-!
# Links and the ways over them

Links alone decide where a way goes; directories and files decide whether it can be gone. So in two
trees with the same links a path that is found in both is found at the same place, whatever else was
made in one of them. Opening a file for additions, and making directories, brings no link.
-/
namespace Downlevel.FileTree

variable {t t' t'' : FileTree} {cwd : Place} {p : Path}

/-- Two trees have the same links, at the same places. -/
def SameLinks (t t' : FileTree) : Prop :=
  ∀ q target, t'.find? q = some (.link target) ↔ t.find? q = some (.link target)

namespace SameLinks

theorem refl (t : FileTree) : t.SameLinks t :=
  fun _ _ => Iff.rfl

theorem symm (h : t.SameLinks t') : t'.SameLinks t :=
  fun q target => (h q target).symm

theorem trans (h : t.SameLinks t') (h' : t'.SameLinks t'') : t.SameLinks t'' :=
  fun q target => (h' q target).trans (h q target)

/-- A way that can be gone in two trees with the same links ends at the same place in both. -/
theorem walk_unique (h : t.SameLinks t') {f : Bool} (links : Nat) (at_ : Place) (names : List String)
    {q q' : Place} (hq : t.walk f links at_ names = .ok q) (hq' : t'.walk f links at_ names = .ok q') :
    q' = q := by
  -- The cases are those of the walk in the first tree. Where another node stands in the second one,
  -- that is no link either, and so both ways go on from there.
  have hnolink : ∀ {place : Place}, (∀ target, t.find? place ≠ some (.link target)) →
      ∀ target, t'.find? place ≠ some (.link target) :=
    fun hlink target hnode => hlink target ((h _ target).mp hnode)
  have hends : ∀ {links : Nat} {at_ : Place}, t.walk f links at_ [] = .ok q →
      t'.walk f links at_ [] = .ok q' → q' = q := by
    intro links at_ hq hq'
    rw [walk] at hq hq'
    exact (Except.ok.inj hq').symm.trans (Except.ok.inj hq)
  have hlast : ∀ {links at_ n rest}, n ≠ "." → n ≠ ".." →
      rest.isEmpty = true → (∀ target, t.find? (at_ ++ [n]) ≠ some (.link target)) → t.walk f links at_ (n :: rest) = .ok q →
      t'.walk f links at_ (n :: rest) = .ok q' → q' = q := by
    intro links at_ n rest hdot hdots hrest hlink hq hq'
    rw [List.isEmpty_iff.mp hrest] at hq hq'
    exact hends (walk_of_ne_link hdot hdots hlink hq) (walk_of_ne_link hdot hdots (hnolink hlink) hq')
  induction links, at_, names using walk.induct t f with
  | case1 links at_ => exact hends hq hq'
  | case2 links at_ n rest e hrefused =>
    rw [walk_refused hrefused] at hq
    cases hq
  | case3 links at_ rest hopen ih =>
    rw [walk_dot hopen] at hq
    rw [walk_dot (refusal?_of_walk hq')] at hq'
    exact ih hq hq'
  | case4 links at_ rest hopen hdot ih =>
    rw [walk_dots hopen] at hq
    rw [walk_dots (refusal?_of_walk hq')] at hq'
    exact ih hq hq'
  | case5 links at_ n rest hopen hdot hdots place hnode hrest =>
    exact hlast hdot hdots hrest (ne_link_of_vacant hnode) hq hq'
  | case6 links at_ n rest hopen hdot hdots place hnode hrest =>
    rw [walk_cons hopen hdot hdots, hnode] at hq
    dsimp only at hq
    rw [if_neg hrest] at hq
    cases hq
  | case7 links at_ n rest hopen hdot hdots place hnode ih =>
    have hlink := ne_link_of_directory hnode
    exact ih (walk_of_ne_link hdot hdots hlink hq) (walk_of_ne_link hdot hdots (hnolink hlink) hq')
  | case8 links at_ n rest hopen hdot hdots place id x bytes hnode hrest =>
    exact hlast hdot hdots hrest (ne_link_of_file hnode) hq hq'
  | case9 links at_ n rest hopen hdot hdots place id x bytes hnode hrest =>
    rw [walk_cons hopen hdot hdots, hnode] at hq
    dsimp only at hq
    rw [if_neg hrest] at hq
    cases hq
  | case10 links at_ n rest hopen hdot hdots place target hnode hstop =>
    rw [walk_cons hopen hdot hdots, hnode] at hq
    rw [walk_cons (refusal?_of_walk hq') hdot hdots, (h _ target).mpr hnode] at hq'
    dsimp only at hq hq'
    rw [if_pos hstop] at hq hq'
    exact (Except.ok.inj hq').symm.trans (Except.ok.inj hq)
  | case11 at_ n rest hopen hdot hdots place target hnode hstop =>
    rw [walk_cons hopen hdot hdots, hnode] at hq
    dsimp only at hq
    rw [if_neg hstop] at hq
    cases hq
  | case12 at_ n rest hopen hdot hdots place target hnode hstop links ih =>
    rw [walk_cons hopen hdot hdots, hnode] at hq
    rw [walk_cons (refusal?_of_walk hq') hdot hdots, (h _ target).mpr hnode] at hq'
    dsimp only at hq hq'
    rw [if_neg hstop] at hq hq'
    exact ih hq hq'

end SameLinks

/-- Trees of the same shape have the same links. -/
theorem SameShape.sameLinks (h : t.SameShape t') : t.SameLinks t' := by
  intro q target
  refine ⟨fun hlink => ?_, h.link⟩
  have hsame := h.outline q
  rw [hlink, Option.map_some] at hsame
  obtain ⟨n, hn, ho⟩ := Option.map_eq_some_iff.mp hsame.symm
  rw [hn, Node.eq_link_of_outline ho rfl]

/-- New directories are no links. -/
theorem AddsDirectories.sameLinks (h : t.AddsDirectories t') : t.SameLinks t' := by
  intro q target
  constructor
  · intro hlink
    apply h.find?_of_ne hlink
    simp
  · exact h.find?

/-! ## Opened files -/

/-- A file that was opened for additions is at the end of its path with all its bytes. Nothing else
changed, and if it is new, there was nothing before. -/
theorem opened {fresh id : Nat} (h : t.openForWriting cwd fresh false p = .ok (id, t')) :
    (∃ place x bytes, t'.locate cwd true p = .ok place ∧ t'.find? place = some (.file id x bytes)) ∧
      (∀ q n, t.find? q = some n → t'.find? q = some n) ∧ t.SameLinks t' := by
  obtain ⟨place, x, old, hplace, hbefore, rfl⟩ := openForWriting_eq_ok h
  rw [if_neg Bool.false_ne_true]
  have hroot : place ≠ [] := by
    rintro rfl
    rw [find?_root] at hbefore
    simp at hbefore
  have hfile : (t.put place (.file id x old)).find? place = some (.file id x old) :=
    find?_put_self hroot
  -- A file that was there is put back as it was, and a new one stands where nothing stood.
  have hkept : ∀ q n, t.find? q = some n → (t.put place (.file id x old)).find? q = some n := by
    intro q n hn
    by_cases hq : q = place
    · subst hq
      rcases hbefore with ⟨hnone, -⟩ | hold
      · rw [hnone] at hn
        cases hn
      · rw [hfile, ← hold, hn]
    · rw [find?_put_of_ne hq, hn]
  refine ⟨⟨place, x, old, ?_, hfile⟩, hkept, ?_⟩
  · have hways : t.KeepsWays (t.put place (.file id x old)) :=
      ⟨rfl, fun q => hkept q _, fun q _ => hkept q _⟩
    exact locate_of_keepsWays_follow hways hplace (ne_link_of_file hfile)
  · intro q target
    refine ⟨fun hlink => ?_, hkept q _⟩
    have hq : q ≠ place := by
      rintro rfl
      exact ne_link_of_file hfile target hlink
    rwa [find?_put_of_ne hq] at hlink

end Downlevel.FileTree
