import Downlevel.Text.Blank
import Downlevel.Text.Digit
/-!
# Blanks around a text

A text is blanks, then what stripping leaves of it, then blanks again. What is left starts and ends
with no blank, and a text of that kind is what stripping leaves whatever blanks stand around it.
-/
namespace Downlevel.Text

/-- A text starts and ends with no blank. -/
structure Bare (cs : List Char) : Prop where
  head : ∀ c ∈ cs.head?, isBlank c = false
  last : ∀ c ∈ cs.getLast?, isBlank c = false

/-- A test fails of what an option holds, if it holds anything. -/
theorem all_not_iff {p : Char → Bool} {o : Option Char} :
    (o.all fun c => !p c) = true ↔ ∀ c ∈ o, p c = false := by
  cases o with
  | none => exact ⟨fun _ => nofun, fun _ => rfl⟩
  | some c => simp

instance (cs : List Char) : Decidable (Bare cs) :=
  decidable_of_iff ((cs.head?.all fun c => !isBlank c) = true ∧
      (cs.getLast?.all fun c => !isBlank c) = true)
    ⟨fun h => ⟨all_not_iff.mp h.1, all_not_iff.mp h.2⟩,
      fun h => ⟨all_not_iff.mpr h.head, all_not_iff.mpr h.last⟩⟩

variable {before cs after : List Char}

/-- Blanks in front of a text vanish. -/
theorem stripLeft_append (h : before.all isBlank) (cs : List Char) :
    stripLeft (before ++ cs) = stripLeft cs :=
  List.dropWhile_append_of_pos (List.all_eq_true.mp h)

/-- Blanks at the end are stripped. -/
theorem stripRight_append (h : after.all isBlank) (cs : List Char) :
    stripRight (cs ++ after) = stripRight cs := by
  unfold stripRight
  rw [List.reverse_append, List.dropWhile_append_of_pos]
  intro c hc
  exact List.all_eq_true.mp h c (List.mem_reverse.mp hc)

/-- Nothing is stripped at the front if that is no blank. -/
theorem stripLeft_of_head (h : ∀ c ∈ cs.head?, isBlank c = false) : stripLeft cs = cs := by
  cases cs with
  | nil => rfl
  | cons c cs => exact List.dropWhile_cons_of_neg (by rw [h c rfl]; exact Bool.false_ne_true)

/-- Nothing is stripped at the end if that is no blank. -/
theorem stripRight_of_last (h : ∀ c ∈ cs.getLast?, isBlank c = false) : stripRight cs = cs := by
  have hhead : ∀ c ∈ cs.reverse.head?, isBlank c = false := by
    intro c hc
    rw [List.head?_reverse] at hc
    exact h c hc
  have hleft := stripLeft_of_head hhead
  unfold stripLeft at hleft
  rw [stripRight, hleft, List.reverse_reverse]

/-- Stripping a text with blanks around it leaves the text. -/
theorem strip_surrounded (hb : before.all isBlank) (ha : after.all isBlank) (h : Bare cs) :
    strip (before ++ cs ++ after) = cs := by
  cases cs with
  | nil =>
    have hall : (before ++ [] ++ after).all isBlank := by
      rw [List.append_nil, List.all_append, hb, ha, Bool.and_self]
    have hnone := stripLeft_append hall []
    rw [List.append_nil] at hnone
    rw [strip, hnone]
    rfl
  | cons c cs =>
    have hleft : stripLeft (c :: cs ++ after) = c :: cs ++ after := stripLeft_of_head h.head
    rw [List.append_assoc, strip, stripLeft_append hb, hleft, stripRight_append ha,
      stripRight_of_last h.last]

/-- Around what stripping leaves stand blanks. -/
theorem exists_surrounded (cs : List Char) :
    ∃ before after, before.all isBlank ∧ after.all isBlank ∧ cs = before ++ strip cs ++ after := by
  refine ⟨cs.takeWhile isBlank, ((stripLeft cs).reverse.takeWhile isBlank).reverse, ?_, ?_, ?_⟩
  · exact List.all_takeWhile
  · rw [List.all_reverse]
    exact List.all_takeWhile
  · rw [List.append_assoc, strip, stripRight, ← List.reverse_append,
      List.takeWhile_append_dropWhile, List.reverse_reverse, stripLeft,
      List.takeWhile_append_dropWhile]

theorem bare_nil : Bare [] := ⟨nofun, nofun⟩

/-- All is stripped if and only if all is blank. -/
theorem strip_eq_nil_iff (cs : List Char) : strip cs = [] ↔ cs.all isBlank := by
  constructor
  · intro h
    obtain ⟨before, after, hb, ha, hcs⟩ := exists_surrounded cs
    rw [hcs, h, List.append_nil, List.all_append, hb, ha, Bool.and_self]
  · intro h
    have hstrip : strip (cs ++ [] ++ []) = [] := strip_surrounded h rfl bare_nil
    rwa [List.append_nil, List.append_nil] at hstrip

/-- A blank is no digit. -/
theorem isDigit_of_isBlank {c : Char} (h : isBlank c = true) : isDigit c = false := by
  have hall : ∀ r ∈ blankRanges, ∀ k < r.2 + 1 - r.1, isDigit (Char.ofNat (r.1 + k)) = false := by
    decide +kernel
  obtain ⟨r, hr, hlow, hhigh⟩ := inRanges_iff.mp h
  have hc := hall r hr (c.toNat - r.1) (by omega)
  rwa [Nat.add_sub_cancel' hlow, Char.ofNat_toNat] at hc

end Downlevel.Text
