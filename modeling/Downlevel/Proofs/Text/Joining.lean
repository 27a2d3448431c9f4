import Mathlib.Data.List.TakeWhile
import Downlevel.Text.Blank
import Downlevel.Text.Utf8
/-!
# Joined texts

Joining texts with a separator and cutting a text at a separator, in either order. A text is joined
the same way as characters, as code points and as bytes; it has no surrogates, so it always has a
form in bytes.
-/
namespace Downlevel.Text

/-! ## Joined lists -/

/-- A map goes through a joined list. -/
theorem map_intercalate {α β : Type} (f : α → β) (sep : List α) (xs : List (List α)) :
    (sep.intercalate xs).map f = (sep.map f).intercalate (xs.map (List.map f)) := by
  induction xs with
  | nil => rfl
  | cons x xs ih =>
    cases xs with
    | nil => simp
    | cons y ys =>
      rw [List.intercalate_cons_cons, List.map_append, List.map_append, ih]
      rw [List.map_cons, List.map_cons, List.map_cons, List.intercalate_cons_cons]

/-- What is in a part is in the joined list. -/
theorem mem_intercalate {α : Type} {a : α} (sep : List α) {xs : List (List α)} {x : List α}
    (hx : x ∈ xs) (ha : a ∈ x) : a ∈ sep.intercalate xs := by
  induction xs with
  | nil => cases hx
  | cons y ys ih =>
    cases ys with
    | nil =>
      rw [List.intercalate_singleton]
      rwa [← List.mem_singleton.mp hx]
    | cons z zs =>
      rw [List.intercalate_cons_cons, List.mem_append, List.mem_append]
      rcases List.mem_cons.mp hx with rfl | hx
      · exact Or.inl (Or.inl ha)
      · exact Or.inr (ih hx)

/-- What is in no part and not in the separator is not in the joined list. -/
theorem not_mem_intercalate {α : Type} {a : α} {sep : List α} (hsep : a ∉ sep)
    {xs : List (List α)} (h : ∀ x ∈ xs, a ∉ x) : a ∉ sep.intercalate xs := by
  induction xs with
  | nil => simp
  | cons x xs ih =>
    have hx := h x List.mem_cons_self
    cases xs with
    | nil => rwa [List.intercalate_singleton]
    | cons y ys =>
      have hys := ih fun z hz => h z (List.mem_cons_of_mem _ hz)
      rw [List.intercalate_cons_cons, List.mem_append, List.mem_append]
      rintro ((hin | hin) | hin)
      · exact hx hin
      · exact hsep hin
      · exact hys hin

/-! ## Cutting -/

/-- Cutting at a separator is the operation of the library on lists. -/
theorem splitOn_eq_list_splitOn (sep : Char) (cs : List Char) :
    splitOn sep cs = cs.splitOn sep := by
  induction cs with
  | nil => rfl
  | cons c cs ih =>
    rw [splitOn, ih, List.splitOn_cons_eq_if_modifyHead]
    by_cases hc : c = sep
    · rw [if_pos hc, if_pos (beq_iff_eq.mpr hc)]
    · rw [if_neg hc, if_neg (by simpa using hc)]
      have hcut := List.splitOn_ne_nil sep cs
      revert hcut
      cases cs.splitOn sep with
      | nil => exact fun hcut => absurd rfl hcut
      | cons part parts => exact fun _ => rfl

/-- No part between separators has one. -/
theorem not_mem_of_mem_splitOn {sep : Char} (cs : List Char) :
    ∀ part ∈ splitOn sep cs, sep ∉ part := by
  induction cs with
  | nil =>
    intro part hpart
    rw [List.mem_singleton.mp hpart]
    exact List.not_mem_nil
  | cons c cs ih =>
    rw [splitOn]
    split
    · intro part hpart
      rcases List.mem_cons.mp hpart with rfl | hpart
      · exact List.not_mem_nil
      · exact ih part hpart
    · rename_i hc
      have hsingle : sep ∉ [c] := fun hmem => hc (List.mem_singleton.mp hmem).symm
      split
      · intro part hpart
        rwa [List.mem_singleton.mp hpart]
      · -- The character goes to the first part, and is not the separator.
        rename_i first rest hs
        rw [hs] at ih
        intro part hpart
        rcases List.mem_cons.mp hpart with rfl | hpart
        · intro hmem
          rcases List.mem_cons.mp hmem with rfl | hmem
          · exact hc rfl
          · exact ih first List.mem_cons_self hmem
        · exact ih part (List.mem_cons_of_mem _ hpart)

/-- What stands between two separators is a part of the text. -/
theorem infix_of_mem_splitOn (sep : Char) (cs : List Char) :
    ∀ part ∈ splitOn sep cs, part <:+: cs := by
  -- The first part is even a beginning, and the induction needs that.
  suffices h : ∃ first rest, splitOn sep cs = first :: rest ∧ first <+: cs ∧
      ∀ part ∈ rest, part <:+: cs by
    obtain ⟨first, rest, hs, hf, hr⟩ := h
    intro part hpart
    rw [hs] at hpart
    rcases List.mem_cons.mp hpart with rfl | hpart
    · exact hf.isInfix
    · exact hr part hpart
  induction cs with
  | nil => exact ⟨[], [], rfl, List.prefix_rfl, by simp⟩
  | cons c cs ih =>
    obtain ⟨first, rest, hs, hf, hr⟩ := ih
    rw [splitOn, hs]
    by_cases hc : c = sep
    · rw [if_pos hc]
      refine ⟨[], first :: rest, rfl, List.nil_prefix, ?_⟩
      intro part hpart
      apply List.infix_cons
      rcases List.mem_cons.mp hpart with rfl | hpart
      · exact hf.isInfix
      · exact hr part hpart
    · rw [if_neg hc]
      exact ⟨c :: first, rest, rfl, List.cons_prefix_cons.mpr ⟨rfl, hf⟩,
        fun part hpart => List.infix_cons (hr part hpart)⟩

/-- Texts that were joined come back when the result is cut, if none of them has the separator. -/
theorem parts_intercalate {sep : Char} {xs : List String} (h : ∀ x ∈ xs, sep ∉ x.toList)
    (hne : xs ≠ []) : parts sep ((String.singleton sep).intercalate xs) = xs := by
  have hchars : ∀ cs ∈ xs.map String.toList, sep ∉ cs := by
    intro cs hcs
    obtain ⟨x, hx, rfl⟩ := List.mem_map.mp hcs
    exact h x hx
  rw [parts, splitOn_eq_list_splitOn, String.toList_intercalate, String.toList_singleton,
    List.splitOn_intercalate sep hchars (by simpa using hne), List.map_map]
  have hid : String.ofList ∘ String.toList = id := funext fun _ => String.ofList_toList
  rw [hid, List.map_id]

/-- The parts of a text give the text when they are joined. -/
theorem intercalate_parts (sep : Char) (s : String) :
    (String.singleton sep).intercalate (parts sep s) = s := by
  have hid : String.toList ∘ String.ofList = id := funext fun _ => String.toList_ofList
  rw [← String.toList_inj, String.toList_intercalate, String.toList_singleton, parts,
    List.map_map, hid, List.map_id, splitOn_eq_list_splitOn, List.intercalate_splitOn]

/-- No part has the separator in it. -/
theorem not_mem_of_mem_parts {sep : Char} {s part : String} (h : part ∈ parts sep s) :
    sep ∉ part.toList := by
  obtain ⟨cs, hcs, rfl⟩ := List.mem_map.mp h
  rw [String.toList_ofList]
  exact not_mem_of_mem_splitOn _ cs hcs

/-- Without a separator all of a text stands before the first one. -/
theorem takeWhile_of_not_mem {sep : Char} {cs : List Char} (h : sep ∉ cs) :
    cs.takeWhile (· ≠ sep) = cs := by
  rw [List.takeWhile_eq_self_iff]
  exact fun c hc => decide_eq_true fun heq => h (heq ▸ hc)

/-- What stands before the first separator is what is in front of it. -/
theorem takeWhile_append_cons {sep : Char} {front : List Char} (h : sep ∉ front)
    (rest : List Char) : (front ++ sep :: rest).takeWhile (· ≠ sep) = front := by
  rw [List.takeWhile_append_of_pos, List.takeWhile_cons_of_neg, List.append_nil]
  · simp
  · exact fun c hc => decide_eq_true fun heq => h (heq ▸ hc)

/-! ## Replacing a character -/

/-- A text with another character for every occurrence of one. -/
def replaced (old new : Char) (s : String) : String :=
  String.ofList (s.toList.map fun c => if c = old then new else c)

theorem replaced_eq_self {old new : Char} {cs : List Char} (h : old ∉ cs) :
    (cs.map fun c => if c = old then new else c) = cs := by
  refine (List.map_congr_left ?_).trans (List.map_id cs)
  intro c hc
  have hne : c ≠ old := fun heq => h (heq ▸ hc)
  rw [if_neg hne, id]

theorem not_mem_replaced {old new : Char} (hne : new ≠ old) (cs : List Char) :
    old ∉ cs.map fun c => if c = old then new else c := by
  rw [List.mem_map]
  rintro ⟨c, -, hc⟩
  split at hc
  · exact hne hc
  · contradiction

/-- Exchanging the separator of joined texts gives the texts joined with the other separator exactly
when none of them has the separator that is exchanged. -/
theorem replaced_intercalate_iff {old new : Char} (hne : new ≠ old) (xs : List String) :
    replaced old new ((String.singleton old).intercalate xs)
        = (String.singleton new).intercalate xs ↔
      ∀ x ∈ xs, old ∉ x.toList := by
  rw [← String.toList_inj, replaced, String.toList_ofList, String.toList_intercalate,
    String.toList_intercalate, String.toList_singleton, String.toList_singleton, map_intercalate,
    List.map_singleton, if_pos rfl, List.map_map]
  constructor
  · -- What is replaced is gone from the left side, and would be in the right one.
    intro heq x hx hold
    have hmem : old ∈ [new].intercalate (xs.map String.toList) :=
      mem_intercalate _ (List.mem_map_of_mem hx) hold
    rw [← heq] at hmem
    refine not_mem_intercalate ?_ ?_ hmem
    · rw [List.mem_singleton]
      exact hne.symm
    · intro cs hcs
      obtain ⟨y, -, rfl⟩ := List.mem_map.mp hcs
      exact not_mem_replaced hne y.toList
  · intro h
    congr 1
    apply List.map_congr_left
    intro x hx
    exact replaced_eq_self (h x hx)

/-! ## Code points and bytes -/

/-- The numbers of two texts are one behind the other. -/
theorem codePoints_append (s s' : String) : codePoints (s ++ s') = codePoints s ++ codePoints s' := by
  rw [codePoints, String.toList_append, List.map_append]
  rfl

/-- The numbers of joined texts are the joined numbers. -/
theorem codePoints_intercalate (sep : String) (xs : List String) :
    codePoints (sep.intercalate xs) = (codePoints sep).intercalate (xs.map codePoints) := by
  rw [codePoints, String.toList_intercalate, map_intercalate, List.map_map]
  rfl

/-- No character is a surrogate. -/
theorem not_isSurrogate_toNat (c : Char) : isSurrogate c.toNat = false := by
  rw [isSurrogate, Bool.and_eq_false_iff]
  rcases c.valid with h | h
  · left
    have : c.toNat < 0xd800 := h
    simp only [decide_eq_false_iff_not]
    omega
  · right
    have : 0xdfff < c.toNat := h.1
    simp only [decide_eq_false_iff_not]
    omega

/-- The numbers of a text have no surrogate among them. -/
theorem surrogateRun?_codePoints (s : String) : surrogateRun? 0 (codePoints s) = none := by
  suffices h : ∀ (cs : List Char) (n : Nat), surrogateRun? n (cs.map Char.toNat) = none from
    h s.toList 0
  intro cs
  induction cs with
  | nil => intro n; rfl
  | cons c cs ih =>
    intro n
    rw [List.map_cons, surrogateRun?, not_isSurrogate_toNat]
    exact ih (n + 1)

/-- The code points of a string always have a form in bytes. -/
theorem encodeUtf8_codePoints (s : String) : encodeUtf8 (codePoints s) = .ok (utf8 s) := by
  rw [encodeUtf8, surrogateRun?_codePoints, codePoints, List.flatMap_map]
  rfl

end Downlevel.Text
