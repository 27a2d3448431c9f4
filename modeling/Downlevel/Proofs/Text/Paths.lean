import Downlevel.Path
import Downlevel.Proofs.Text.Joining
/-!
# Paths and their texts

A path is normal if its names are such as a text can give: they are not empty, not a single dot, and
have no slash. The text of a normal path reads as that path.
-/
namespace Downlevel

namespace Text

/-- A separator at the front makes an empty part. -/
theorem parts_cons_sep (sep : Char) (cs : List Char) :
    parts sep (String.ofList (sep :: cs)) = "" :: parts sep (String.ofList cs) := by
  rw [parts, parts, String.toList_ofList, String.toList_ofList, splitOn, if_pos rfl, List.map_cons]

end Text

namespace Path

/-- Each name is one that a text can give. -/
def Normal (p : Path) : Prop :=
  ∀ n ∈ p.names, n ≠ "" ∧ n ≠ "." ∧ '/' ∉ n.toList

instance (p : Path) : Decidable p.Normal :=
  inferInstanceAs (Decidable (∀ n ∈ p.names, n ≠ "" ∧ n ≠ "." ∧ '/' ∉ n.toList))

variable {p : Path}

/-- Names that were joined with slashes are read. -/
theorem namesOf_intercalate {names : List String}
    (h : ∀ n ∈ names, n ≠ "" ∧ n ≠ "." ∧ '/' ∉ n.toList) :
    namesOf ("/".intercalate names) = names := by
  rw [namesOf]
  cases names with
  | nil => rfl
  | cons n rest =>
    have hparts : Text.parts '/' ("/".intercalate (n :: rest)) = n :: rest :=
      Text.parts_intercalate (fun m hm => (h m hm).2.2) (List.cons_ne_nil _ _)
    rw [hparts, List.filter_eq_self]
    exact fun m hm => decide_eq_true ⟨(h m hm).1, (h m hm).2.1⟩

/-- The names joined with slashes start with no slash. -/
theorem head?_intercalate_ne {names : List String}
    (h : ∀ n ∈ names, n ≠ "" ∧ n ≠ "." ∧ '/' ∉ n.toList) :
    ("/".intercalate names).toList.head? ≠ some '/' := by
  cases names with
  | nil => exact nofun
  | cons n rest =>
    obtain ⟨hne, -, hslash⟩ := h n List.mem_cons_self
    cases hn : n.toList with
    | nil => exact absurd (String.toList_eq_nil_iff.mp hn) hne
    | cons c cs =>
      have hc : c ≠ '/' := by
        rintro rfl
        exact hslash (hn ▸ List.mem_cons_self)
      rw [String.toList_intercalate, List.map_cons, hn]
      cases rest with
      | nil => exact fun heq => hc (Option.some.inj heq)
      | cons m rest =>
        rw [List.map_cons, List.intercalate_cons_cons]
        exact fun heq => hc (Option.some.inj heq)

/-- A slash in front adds no name. -/
theorem namesOf_slash (s : String) : namesOf ("/" ++ s) = namesOf s := by
  have hparts : Text.parts '/' ("/" ++ s) = "" :: Text.parts '/' s := by
    have hslash : "/" ++ s = String.ofList ('/' :: s.toList) := by
      rw [← String.toList_inj, String.toList_append, String.toList_ofList, String.toList_ofList]
      rfl
    rw [hslash, Text.parts_cons_sep, String.ofList_toList]
  rw [namesOf, namesOf, hparts, List.filter_cons_of_neg]
  decide

/-- The anchor is told by the slashes in front. -/
theorem anchorOf_slashes {cs : List Char} (h : cs.head? ≠ some '/') :
    anchorOf cs = .here ∧ anchorOf ('/' :: cs) = .root ∧ anchorOf ('/' :: '/' :: cs) = .doubleRoot := by
  cases cs with
  | nil => exact ⟨rfl, rfl, rfl⟩
  | cons c cs =>
    have hc : c ≠ '/' := fun heq => h (congrArg some heq)
    refine ⟨?_, ?_, ?_⟩ <;> simp [anchorOf, hc]

/-- The text of a normal path reads as that path. -/
theorem ofString_toString (h : p.Normal) : ofString p.toString = p := by
  obtain ⟨anchor, names⟩ := p
  have hnames : namesOf ("/".intercalate names) = names := namesOf_intercalate h
  obtain ⟨hhere, hroot, hdouble⟩ := anchorOf_slashes (head?_intercalate_ne h)
  -- The slashes in front are those of the anchor, as no name begins with one.
  cases anchor with
  | here =>
    rw [toString]
    split
    · rename_i hempty
      obtain ⟨-, hnil⟩ := hempty
      dsimp only at hnil
      rw [hnil]
      decide
    · rw [anchorText, String.empty_append, ofString, hhere, hnames]
  | root =>
    rw [toString, if_neg (fun heq => Anchor.noConfusion heq.1), anchorText, ofString, namesOf_slash,
      hnames, String.toList_append]
    exact congrArg (Path.mk · names) hroot
  | doubleRoot =>
    have htwo : anchorText .doubleRoot ++ "/".intercalate names
        = "/" ++ ("/" ++ "/".intercalate names) := by
      rw [← String.append_assoc]
      rfl
    rw [toString, if_neg (fun heq => Anchor.noConfusion heq.1)]
    dsimp only
    rw [htwo, ofString, namesOf_slash, namesOf_slash, hnames, String.toList_append,
      String.toList_append]
    exact congrArg (Path.mk · names) hdouble

/-- A path seen from an absolute directory is absolute. -/
theorem isAbsolute_under {base : Path} (h : base.isAbsolute = true) (p : Path) :
    (p.under base).isAbsolute = true := by
  rw [under, isAbsolute_join, h, Bool.true_or]

/-- An absolute path is the same from everywhere. -/
theorem under_of_isAbsolute (h : p.isAbsolute = true) (base : Path) : p.under base = p :=
  join_of_isAbsolute h

/-- Without two dots there is nothing to be worked out. -/
theorem collapse_of_not_mem {absolute : Bool} {names : List String} (h : ".." ∉ names)
    (done : List String) : collapse absolute done names = done.reverse ++ names := by
  induction names generalizing done with
  | nil => rw [collapse, List.append_nil]
  | cons n names ih =>
    have hn : n ≠ ".." := fun heq => h (heq ▸ List.mem_cons_self)
    have hrest : ".." ∉ names := fun hmem => h (List.mem_cons_of_mem n hmem)
    unfold collapse
    rw [if_neg hn, ih hrest, List.reverse_cons, List.append_assoc]
    rfl

/-- Without two dots there is nothing to be normalized. -/
theorem normalized_of_not_mem (h : ".." ∉ p.names) : p.normalized = p := by
  rw [normalized, collapse_of_not_mem h]
  rfl

/-- A text that is one name leads one name further. -/
theorem child_of_name {s : String} (h : s ≠ "" ∧ s ≠ "." ∧ '/' ∉ s.toList) (p : Path) :
    p.child s = ⟨p.anchor, p.names ++ [s]⟩ := by
  have hnormal : (Path.mk .here [s]).Normal := by
    intro n hn
    rwa [List.mem_singleton.mp hn]
  have htext : (Path.mk .here [s]).toString = s := by
    simp [toString, anchorText]
  have hread : ofString s = ⟨.here, [s]⟩ := by
    rw [← htext, ofString_toString hnormal, htext]
  rw [child, hread]
  rfl

/-- A path has a text. -/
theorem toString_ne_empty (h : p.Normal) : p.toString ≠ "" := by
  intro hempty
  have hread := ofString_toString h
  rw [hempty] at hread
  have hdot : (ofString "").toString = "." := by decide
  rw [hread, hempty] at hdot
  exact absurd hdot (by decide)

end Path

end Downlevel
