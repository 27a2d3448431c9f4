import Downlevel.Proofs.FileTree.Entry
import Downlevel.Proofs.Text.Paths
/-!
# Ways down

A path goes on below another one by names that do not lead up again. If no link stands below the place
that the other path leads to, it leads from there to the place with these names. So different names
lead to different places.
-/
namespace Downlevel

namespace Path

/-- A text that is one name, and a way down. -/
structure IsName (s : String) : Prop where
  ne_empty : s ≠ ""
  ne_dot : s ≠ "."
  ne_dots : s ≠ ".."
  no_slash : '/' ∉ s.toList

instance (s : String) : Decidable (IsName s) :=
  decidable_of_iff (s ≠ "" ∧ s ≠ "." ∧ s ≠ ".." ∧ '/' ∉ s.toList)
    ⟨fun ⟨hempty, hdot, hdots, hslash⟩ => ⟨hempty, hdot, hdots, hslash⟩,
      fun h => ⟨h.ne_empty, h.ne_dot, h.ne_dots, h.no_slash⟩⟩

/-- The path some names further. -/
def descend (p : Path) (names : List String) : Path :=
  ⟨p.anchor, p.names ++ names⟩

/-- A path goes on from another one by at least one name, and only down. -/
def IsBelow (p base : Path) : Prop :=
  ∃ names, names ≠ [] ∧ (∀ n ∈ names, IsName n) ∧ p = base.descend names

/-- Texts that are names lead down by these names. -/
theorem foldl_child {names : List String} (h : ∀ n ∈ names, IsName n) (p : Path) :
    names.foldl child p = p.descend names := by
  induction names generalizing p with
  | nil => rw [List.foldl_nil, descend, List.append_nil]
  | cons n names ih =>
    have hn := h n List.mem_cons_self
    rw [List.foldl_cons, child_of_name ⟨hn.ne_empty, hn.ne_dot, hn.no_slash⟩,
      ih fun m hm => h m (List.mem_cons_of_mem n hm)]
    exact congrArg (Path.mk p.anchor) (List.append_assoc p.names [n] names)

/-- Joined texts begin with the first of them joined. -/
theorem prefix_of_intercalate {α : Type} (sep : List α) (xs ys : List (List α)) :
    sep.intercalate xs <+: sep.intercalate (xs ++ ys) := by
  induction xs with
  | nil => exact List.nil_prefix
  | cons x xs ih =>
    cases xs with
    | nil =>
      cases ys with
      | nil => exact List.prefix_rfl
      | cons y ys =>
        rw [List.singleton_append, List.intercalate_cons_cons, List.intercalate_singleton,
          List.append_assoc]
        exact List.prefix_append _ _
    | cons x' xs =>
      rw [List.cons_append, List.cons_append, List.intercalate_cons_cons,
        List.intercalate_cons_cons]
      exact List.prefix_append_right_inj _ |>.mpr ih

/-- Joined texts end with the last of them joined. -/
theorem intercalate_suffix {α : Type} (sep : List α) (xs ys : List (List α)) :
    sep.intercalate ys <:+ sep.intercalate (xs ++ ys) := by
  induction xs with
  | nil => exact List.suffix_rfl
  | cons x xs ih =>
    rw [List.cons_append]
    cases hrest : xs ++ ys with
    | nil =>
      rw [(List.append_eq_nil_iff.mp hrest).2]
      exact List.nil_suffix
    | cons z zs =>
      rw [List.intercalate_cons_cons, ← hrest]
      exact ih.trans (List.suffix_append _ _)

/-- Bytes of a part of a text are no more than those of the text. -/
theorem length_utf8_le_of_infix {s s' : String} (h : s.toList <:+: s'.toList) :
    (Text.utf8 s).length ≤ (Text.utf8 s').length := by
  obtain ⟨before, after, h⟩ := h
  rw [Text.utf8, Text.utf8, ← h, List.flatMap_append, List.flatMap_append, List.length_append,
    List.length_append]
  omega

/-- The text of the empty path is short. -/
theorem isTooLong_of_empty {p : Path} (h : p.anchor = .here ∧ p.names = []) :
    p.isTooLong = false := by
  rw [isTooLong, toString, if_pos h]
  decide

/-- A path that is not too long has a beginning that is not. -/
theorem isTooLong_of_descend {p : Path} {names : List String}
    (h : (p.descend names).isTooLong = false) : p.isTooLong = false := by
  by_cases hdot : p.anchor = .here ∧ p.names = []
  · exact isTooLong_of_empty hdot
  · have hdot' : ¬ (p.anchor = .here ∧ (p.names ++ names) = []) := fun hnil =>
      hdot ⟨hnil.1, (List.append_eq_nil_iff.mp hnil.2).1⟩
    refine decide_eq_false fun hlong => of_decide_eq_false h (hlong.trans ?_)
    apply length_utf8_le_of_infix
    rw [toString, if_neg hdot, toString, descend, if_neg hdot', String.toList_append,
      String.toList_append, String.toList_intercalate, String.toList_intercalate, List.map_append]
    exact ((List.prefix_append_right_inj _).mpr (prefix_of_intercalate _ _ _)).isInfix

/-- A path from the root that is not too long has an end that is not. -/
theorem isTooLong_of_ascend {names rest : List String}
    (h : (Path.mk .root (names ++ rest)).isTooLong = false) : (Path.mk .here rest).isTooLong = false := by
  by_cases hdot : (Path.mk .here rest).anchor = .here ∧ (Path.mk .here rest).names = []
  · exact isTooLong_of_empty hdot
  · refine decide_eq_false fun hlong => of_decide_eq_false h (hlong.trans ?_)
    apply length_utf8_le_of_infix
    have hroot : ¬ ((Path.mk .root (names ++ rest)).anchor = .here ∧
        (Path.mk .root (names ++ rest)).names = []) := fun h => nomatch h.1
    rw [toString, if_neg hdot, toString, if_neg hroot]
    show ("" ++ "/".intercalate rest).toList <:+: ("/" ++ "/".intercalate (names ++ rest)).toList
    rw [String.empty_append, String.toList_append, String.toList_intercalate,
      String.toList_intercalate, List.map_append]
    exact ((intercalate_suffix _ _ _).trans (List.suffix_append _ _)).isInfix

/-- The names by which a path goes on are told by where it comes to. -/
theorem descend_injective (p : Path) : Function.Injective p.descend :=
  fun _ _ h => List.append_cancel_left (congrArg Path.names h)

end Path

namespace FileTree

variable {t : FileTree} {cwd at_ place : Place} {p : Path} {f : Bool} {links : Nat}
  {names rest : List String}

/-! ## Places below a place -/

/-- A place is below another one if some names lead from there to it. -/
theorem isBelow_iff {q : Place} : isBelow q place = true ↔ ∃ names, names ≠ [] ∧ q = place ++ names := by
  rw [isBelow, Bool.and_eq_true, List.isPrefixOf_iff_prefix, decide_eq_true_iff]
  constructor
  · rintro ⟨⟨names, rfl⟩, hlength⟩
    refine ⟨names, ?_, rfl⟩
    rintro rfl
    exact hlength (by rw [List.append_nil])
  · rintro ⟨names, hne, rfl⟩
    refine ⟨List.prefix_append _ _, fun hlength => hne ?_⟩
    rwa [List.length_append, Nat.add_eq_left, List.length_eq_zero_iff] at hlength

/-- No link stands below a place. -/
def NoLinksBelow (t : FileTree) (place : Place) : Prop :=
  ∀ q target, isBelow q place = true → t.find? q ≠ some (.link target)

/-- Below a place without links there are none either. -/
theorem NoLinksBelow.append (h : t.NoLinksBelow place) (names : List String) :
    t.NoLinksBelow (place ++ names) := by
  intro q target hq
  obtain ⟨more, hne, rfl⟩ := isBelow_iff.mp hq
  apply h
  exact isBelow_iff.mpr ⟨names ++ more, List.append_ne_nil_of_right_ne_nil _ hne, by
    rw [List.append_assoc]⟩

/-- A tree in which there are no links has none below any place. -/
theorem noLinksBelow_of_nodes (h : ∀ e ∈ t.nodes, ∀ target, e.2 ≠ .link target) (place : Place) :
    t.NoLinksBelow place := by
  intro q target hq hlink
  have hroot : q ≠ [] := ne_root_of_find? (by rw [hlink]; exact nofun)
  exact h _ (mem_nodes_of_find? hroot hlink) target rfl

/-! ## Ways down -/

/-- A path that is not refused as a whole has a beginning that is not. -/
theorem pathRefusal?_of_descend (names : List String) (h : pathRefusal? (p.descend names) = none) :
    pathRefusal? p = none := by
  unfold pathRefusal? at h ⊢
  split at h
  · cases h
  · rename_i hnull
    split at h
    · cases h
    · rename_i hlong
      have hnull' : p.hasNull = false := by
        rw [Path.hasNull, Path.descend, List.any_append] at hnull
        exact (Bool.or_eq_false_iff.mp (Bool.eq_false_iff.mpr hnull)).1
      rw [hnull', Path.isTooLong_of_descend (Bool.eq_false_iff.mpr hlong)]
      rfl

/-- So has one from the root an end that is not. -/
theorem pathRefusal?_of_ascend (h : pathRefusal? ⟨.root, names ++ rest⟩ = none) :
    pathRefusal? ⟨.here, rest⟩ = none := by
  unfold pathRefusal? at h ⊢
  split at h
  · cases h
  · rename_i hnull
    split at h
    · cases h
    · rename_i hlong
      have hnull' : (Path.mk .here rest).hasNull = false := by
        rw [Path.hasNull, List.any_append] at hnull
        exact (Bool.or_eq_false_iff.mp (Bool.eq_false_iff.mpr hnull)).2
      rw [hnull', Path.isTooLong_of_ascend (Bool.eq_false_iff.mpr hlong)]
      rfl

/-- A way that goes on from some names goes on from the place that these lead to. -/
theorem walk_append (hrest : rest ≠ []) (h : t.walk f links at_ (names ++ rest) = .ok place) :
    ∃ base left, t.walk true links at_ names = .ok base ∧ t.walk f left base rest = .ok place := by
  -- The cases are those of the way over the first names. The whole way does not end there, so it can
  -- neither come to a vacant place nor to a file on them, and each link on them is followed.
  induction links, at_, names using walk.induct t true with
  | case1 links at_ => exact ⟨at_, links, by rw [walk], h⟩
  | case2 links at_ n names e hrefused =>
    rw [List.cons_append, walk_refused hrefused] at h
    cases h
  | case3 links at_ names hopen ih =>
    rw [List.cons_append, walk_dot hopen] at h
    rw [walk_dot hopen]
    exact ih h
  | case4 links at_ names hopen hdot ih =>
    rw [List.cons_append, walk_dots hopen] at h
    rw [walk_dots hopen]
    exact ih h
  | case5 links at_ n names hopen hdot hdots next hnode hlast
  | case6 links at_ n names hopen hdot hdots next hnode hlast
  | case8 links at_ n names hopen hdot hdots next id x bytes hnode hlast
  | case9 links at_ n names hopen hdot hdots next id x bytes hnode hlast =>
    rw [List.cons_append, walk_cons hopen hdot hdots, hnode] at h
    simp [hrest] at h
  | case7 links at_ n names hopen hdot hdots next hnode ih =>
    rw [List.cons_append, walk_cons hopen hdot hdots, hnode] at h
    rw [walk_cons hopen hdot hdots, hnode]
    exact ih h
  | case10 links at_ n names hopen hdot hdots next target hnode hstop => simp at hstop
  | case11 at_ n names hopen hdot hdots next target hnode hstop =>
    rw [List.cons_append, walk_cons hopen hdot hdots, hnode] at h
    simp [hrest] at h
  | case12 at_ n names hopen hdot hdots next target hnode hstop links ih =>
    have hon : (names ++ rest).isEmpty = false := by simp [hrest]
    rw [List.cons_append, walk_cons hopen hdot hdots, hnode] at h
    rw [walk_cons hopen hdot hdots, hnode]
    dsimp only at h ⊢
    rw [hon, if_neg (by simp), ← List.append_assoc] at h
    rw [if_neg hstop]
    exact ih h

/-- Where no link stands below, a way of names leads to the place with these names. -/
theorem eq_append_of_walk (hlinks : t.NoLinksBelow at_) (hnames : ∀ n ∈ names, Path.IsName n)
    (h : t.walk f links at_ names = .ok place) : place = at_ ++ names := by
  -- After each name no link stands below the place that was come to, as there was none below the first.
  induction names generalizing at_ with
  | nil =>
    rw [walk] at h
    rw [List.append_nil]
    exact (Except.ok.inj h).symm
  | cons n names ih =>
    have hn := hnames n List.mem_cons_self
    have hnext : ∀ target, t.find? (at_ ++ [n]) ≠ some (.link target) := fun target =>
      hlinks _ target (isBelow_iff.mpr ⟨[n], List.cons_ne_nil n [], rfl⟩)
    have hplace := ih (hlinks.append [n]) (fun m hm => hnames m (List.mem_cons_of_mem n hm))
      (walk_of_ne_link hn.ne_dot hn.ne_dots hnext h)
    rw [hplace, List.append_assoc]
    rfl

/-- No link stands below the place that a path leads to. -/
def NoLinksFrom (t : FileTree) (cwd : Place) (p : Path) : Prop :=
  ∀ base, t.locate cwd true p = .ok base → t.NoLinksBelow base

/-- A path that goes on by names leads to the place with these names. -/
theorem locate_descend (hlinks : t.NoLinksFrom cwd p) (hne : names ≠ [])
    (hnames : ∀ n ∈ names, Path.IsName n)
    (h : t.locate cwd f (p.descend names) = .ok place) :
    ∃ base, t.locate cwd true p = .ok base ∧ place = base ++ names := by
  -- Links may be passed on the way to the other path, and none after it.
  obtain ⟨hwhole, hw⟩ := locate_eq_ok.mp h
  have hfits := pathRefusal?_of_descend names hwhole
  obtain ⟨base, left, hbase, hrest⟩ := walk_append hne hw
  have hbase' : t.locate cwd true p = .ok base := locate_eq_ok.mpr ⟨hfits, hbase⟩
  exact ⟨base, hbase', eq_append_of_walk (hlinks base hbase') hnames hrest⟩

end FileTree

end Downlevel
