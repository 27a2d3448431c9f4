import Mathlib.Data.List.Infix
import Downlevel.Proofs.Text.Paths
import Downlevel.Proofs.Text.Stripping
/-!
# Texts in texts

When a text that is put together from parts has a given text in it, one of the parts has it. That
holds where fixed words stand between the parts of which the given text has no beginning and no end.
The text of a path is put together from names and slashes, so what occurs in it occurs in a name.
-/
namespace Downlevel

namespace Text

/-- The search finds a text exactly when it is a part of the other. -/
theorem occursIn_iff (needle cs : List Char) : occursIn needle cs = true ↔ needle <:+: cs := by
  induction cs with
  | nil => rw [occursIn, List.isEmpty_iff, List.infix_nil]
  | cons c cs ih =>
    rw [occursIn, Bool.or_eq_true, List.isPrefixOf_iff_prefix, ih, List.infix_cons_iff]

/-! ## Blanks -/

/-- A text that starts with no blank does not start in blanks. -/
theorem infix_of_blanks_before {needle before after : List Char}
    (hhead : ∀ c ∈ needle.head?, isBlank c = false) (hne : needle ≠ [])
    (hb : before.all isBlank) (hin : needle <:+: before ++ after) : needle <:+: after := by
  induction before with
  | nil => exact hin
  | cons b before ih =>
    rw [List.all_cons, Bool.and_eq_true] at hb
    rcases List.infix_cons_iff.mp hin with hstart | hrest
    · obtain ⟨c, rest, rfl⟩ := List.exists_cons_of_ne_nil hne
      obtain ⟨rfl, -⟩ := List.cons_prefix_cons.mp hstart
      exact absurd hb.1 (by rw [hhead c rfl]; exact Bool.false_ne_true)
    · exact ih hb.2 hrest

/-- Stripping a text takes nothing away from what starts and ends with no blank, and adds nothing. -/
theorem infix_strip_iff {needle : List Char} (h : Bare needle) (hne : needle ≠ [])
    (cs : List Char) : needle <:+: strip cs ↔ needle <:+: cs := by
  obtain ⟨before, after, hb, ha, hcs⟩ := exists_surrounded cs
  constructor
  · intro hin
    rw [hcs]
    exact hin.trans ⟨before, after, rfl⟩
  · intro hin
    rw [hcs, List.append_assoc] at hin
    have hbehind := infix_of_blanks_before h.head hne hb hin
    -- Read from behind, the blanks at the end stand in front.
    rw [← List.reverse_infix, List.reverse_append] at hbehind
    rw [← List.reverse_infix]
    refine infix_of_blanks_before ?_ (by simpa using hne) (by rwa [List.all_reverse]) hbehind
    intro c hc
    rw [List.head?_reverse] at hc
    exact h.last c hc

/-! ## Words that stand apart -/

/-- Words that neither begin nor end with a part of a text, and are no part of it. The text does not
occur in them, and does not reach into them from either side. -/
structure Apart (needle words : List Char) : Prop where
  not_infix : ¬ words <:+: needle
  no_end : ∀ start ∈ words.inits, start ≠ [] → ¬ start <:+ needle ∧ ¬ needle <:+ start
  no_start : ∀ rest ∈ words.tails, rest ≠ [] → ¬ rest <+: needle

instance (needle words : List Char) : Decidable (Apart needle words) :=
  decidable_of_iff (¬ words <:+: needle ∧
      (∀ start ∈ words.inits, start ≠ [] → ¬ start <:+ needle ∧ ¬ needle <:+ start) ∧
      ∀ rest ∈ words.tails, rest ≠ [] → ¬ rest <+: needle)
    ⟨fun h => ⟨h.1, h.2.1, h.2.2⟩, fun h => ⟨h.not_infix, h.no_end, h.no_start⟩⟩

variable {needle words before after : List Char}

/-- A text that ends at or before the end of such words ends before they begin. -/
theorem Apart.infix_left (h : Apart needle words) (hin : needle <:+: before ++ words) :
    needle <:+: before := by
  obtain ⟨front, back, heq⟩ := hin
  rcases List.append_eq_append_iff.mp heq with ⟨more, hbefore, -⟩ | ⟨start, hover, hwords⟩
  · exact ⟨front, more, hbefore.symm⟩
  · by_cases hnil : start = []
    · subst hnil
      rw [List.append_nil] at hover
      exact ⟨front, [], by rw [List.append_nil, hover]⟩
    · -- The text and the start of the words end at the same point, so one ends with the other.
      have hstart : start ∈ words.inits := (List.mem_inits _ _).mpr ⟨back, hwords.symm⟩
      obtain ⟨hend, hend'⟩ := h.no_end start hstart hnil
      have hneedle : needle <:+ before ++ start := ⟨front, hover⟩
      rcases List.suffix_or_suffix_of_suffix hneedle (List.suffix_append before start) with hs | hs
      · exact absurd hs hend'
      · exact absurd hs hend

/-- What occurs in a text around such words occurs before or after them. -/
theorem Apart.infix_around (h : Apart needle words) (hin : needle <:+: before ++ words ++ after) :
    needle <:+: before ∨ needle <:+: after := by
  obtain ⟨front, back, heq⟩ := hin
  rcases List.append_eq_append_iff.mp heq with ⟨more, hleft, -⟩ | ⟨beyond, hover, hafter⟩
  · exact Or.inl (h.infix_left ⟨front, more, hleft.symm⟩)
  -- It ends behind the words. It cannot begin before them or in them.
  rw [List.append_assoc] at hover
  rcases List.append_eq_append_iff.mp hover with ⟨more, -, hneedle⟩ | ⟨rest, -, hrest⟩
  · exact absurd ⟨more, beyond, by rw [hneedle, List.append_assoc]⟩ h.not_infix
  · rcases List.append_eq_append_iff.mp hrest with ⟨more, -, hbehind⟩ | ⟨last, hwords, hneedle⟩
    · exact Or.inr ⟨more, back, by rw [← hbehind, hafter]⟩
    · by_cases hnil : last = []
      · subst hnil
        rw [List.nil_append] at hneedle
        exact Or.inr ⟨[], back, by rw [hneedle, hafter, List.nil_append]⟩
      · have hlast : last ∈ words.tails := (List.mem_tails _ _).mpr ⟨rest, hwords.symm⟩
        exact absurd ⟨beyond, hneedle.symm⟩ (h.no_start last hlast hnil)

/-- What occurs in two texts, the one behind words and the other behind further words, occurs in one of
them. -/
theorem infix_of_words {first second : List Char} (hfirst : Apart needle first)
    (hsecond : Apart needle second) (hne : needle ≠ [])
    (hin : needle <:+: first ++ before ++ second ++ after) :
    needle <:+: before ∨ needle <:+: after := by
  have hstart : needle <:+: ([] ++ first ++ before) ++ second ++ after := hin
  rcases hsecond.infix_around hstart with hleft | hright
  · refine Or.inl ((hfirst.infix_around hleft).resolve_left fun hnil => hne ?_)
    exact List.eq_nil_of_infix_nil hnil
  · exact Or.inr hright

theorem toList_four (a b c d : String) :
    (a ++ b ++ c ++ d).toList = a.toList ++ b.toList ++ c.toList ++ d.toList := by
  rw [String.toList_append, String.toList_append, String.toList_append]

/-- A part is a part of the joined text. -/
theorem infix_intercalate {part : List Char} {parts : List (List Char)} (h : part ∈ parts) :
    part <:+: words.intercalate parts := by
  induction parts with
  | nil => cases h
  | cons first rest ih =>
    cases rest with
    | nil =>
      rw [List.mem_singleton.mp h, List.intercalate_singleton]
    | cons next rest =>
      rw [List.intercalate_cons_cons]
      rcases List.mem_cons.mp h with rfl | h
      · exact ⟨[], words ++ words.intercalate (next :: rest), by rw [List.nil_append, List.append_assoc]⟩
      · exact (ih h).trans (List.suffix_append _ _).isInfix

/-- What occurs in joined texts occurs in one of them. -/
theorem Apart.infix_intercalate (h : Apart needle words) (hne : needle ≠ [])
    {parts : List (List Char)} (hin : needle <:+: words.intercalate parts) :
    ∃ part ∈ parts, needle <:+: part := by
  induction parts with
  | nil => exact absurd (List.eq_nil_of_infix_nil hin) hne
  | cons part parts ih =>
    cases parts with
    | nil =>
      rw [List.intercalate_singleton] at hin
      exact ⟨part, List.mem_cons_self, hin⟩
    | cons next parts =>
      rw [List.intercalate_cons_cons] at hin
      rcases h.infix_around hin with hpart | hrest
      · exact ⟨part, List.mem_cons_self, hpart⟩
      · obtain ⟨other, hother, hinfix⟩ := ih hrest
        exact ⟨other, List.mem_cons_of_mem _ hother, hinfix⟩

end Text

/-! ## Paths -/

namespace Path

variable {needle : List Char} {p : Path}

/-- What occurs in the text of a path and has neither a slash nor a dot occurs in a name of it. -/
theorem infix_of_toString (hslash : Text.Apart needle ['/']) (hdot : Text.Apart needle ['.'])
    (hne : needle ≠ []) (hin : needle <:+: p.toString.toList) :
    ∃ n ∈ p.names, needle <:+: n.toList := by
  have hnames (h : needle <:+: ("/".intercalate p.names).toList) :
      ∃ n ∈ p.names, needle <:+: n.toList := by
    rw [String.toList_intercalate] at h
    obtain ⟨part, hpart, hinfix⟩ := hslash.infix_intercalate hne h
    obtain ⟨n, hn, rfl⟩ := List.mem_map.mp hpart
    exact ⟨n, hn, hinfix⟩
  have hnil : ¬ needle <:+: [] := fun h => hne (List.eq_nil_of_infix_nil h)
  unfold toString at hin
  split at hin
  · exact absurd (hdot.infix_left hin) hnil
  · rw [String.toList_append] at hin
    -- No slash is part of what occurs, so it is not in those of the anchor.
    cases hanchor : p.anchor with
    | here =>
      rw [hanchor] at hin
      exact hnames hin
    | root =>
      rw [hanchor] at hin
      exact hnames ((hslash.infix_around hin).resolve_left hnil)
    | doubleRoot =>
      rw [hanchor] at hin
      have hslashes : needle <:+: ['/'] ++ ['/'] ++ ("/".intercalate p.names).toList := hin
      refine hnames ((hslash.infix_around hslashes).resolve_left fun h => hnil ?_)
      have hone : needle <:+: [] ++ ['/'] := h
      exact hslash.infix_left hone

/-- A name is a part of the text of its path. -/
theorem infix_toString {n : String} (hn : n ∈ p.names) : n.toList <:+: p.toString.toList := by
  have hjoined : n.toList <:+: ("/".intercalate p.names).toList := by
    rw [String.toList_intercalate]
    exact Text.infix_intercalate (List.mem_map_of_mem hn)
  rw [toString, if_neg (fun h => List.ne_nil_of_mem hn h.2), String.toList_append]
  exact hjoined.trans (List.suffix_append _ _).isInfix

/-- A name of a path occurs in its text. -/
theorem infix_of_mem_namesOf {s n : String} (hn : n ∈ namesOf s) : n.toList <:+: s.toList := by
  obtain ⟨part, hpart, rfl⟩ := List.mem_map.mp (List.mem_filter.mp hn).1
  rw [String.toList_ofList]
  exact Text.infix_of_mem_splitOn '/' s.toList part hpart

/-- What occurs in the text of a path one text further occurs in that of the path or in the text. -/
theorem infix_of_child (hslash : Text.Apart needle ['/']) (hdot : Text.Apart needle ['.'])
    (hne : needle ≠ []) {s : String} (hin : needle <:+: (p.child s).toString.toList) :
    needle <:+: p.toString.toList ∨ needle <:+: s.toList := by
  obtain ⟨n, hn, hinfix⟩ := infix_of_toString hslash hdot hne hin
  have hsource : n ∈ p.names ∨ n ∈ namesOf s := by
    unfold child join at hn
    split at hn
    · exact Or.inr hn
    · exact List.mem_append.mp hn
  exact hsource.imp (fun h => hinfix.trans (infix_toString h))
    fun h => hinfix.trans (infix_of_mem_namesOf h)

/-- What occurs in the text of a path some texts further occurs in that of the path or in one of the
texts. -/
theorem infix_of_foldl_child (hslash : Text.Apart needle ['/']) (hdot : Text.Apart needle ['.'])
    (hne : needle ≠ []) {steps : List String}
    (hin : needle <:+: (steps.foldl child p).toString.toList) :
    needle <:+: p.toString.toList ∨ ∃ s ∈ steps, needle <:+: s.toList := by
  induction steps generalizing p with
  | nil => exact Or.inl hin
  | cons s steps ih =>
    rcases ih hin with hchild | ⟨other, hother, hinfix⟩
    · refine (infix_of_child hslash hdot hne hchild).imp_right fun hs => ?_
      exact ⟨s, List.mem_cons_self, hs⟩
    · exact Or.inr ⟨other, List.mem_cons_of_mem _ hother, hinfix⟩

end Path

end Downlevel
