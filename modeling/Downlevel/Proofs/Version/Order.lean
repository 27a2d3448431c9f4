import Mathlib.Data.List.Induction
import Mathlib.Order.Nat
import Mathlib.Order.PiLex
import Downlevel.Proofs.Text.Stripping
import Downlevel.Proofs.Version.Readable
/-!
# The order of versions

A text is ranked by the numbers that its runs of digits write, followed by zeros without end, in the
lexicographic order of such sequences. Keys are these numbers without the zeros at the end, and
comparing keys is comparing ranks. What is no digit only separates numbers, so blanks around a text
and a number zero at its end do not change its rank.
-/
namespace Downlevel.Version

/-! ## Ranks -/

/-- The numbers in a text: those that its longest runs of digits write, from left to right. -/
def numbers (cs : List Char) : List Nat :=
  ((cs.splitOnP fun c => !Text.isDigit c).filter (· ≠ [])).map Text.digitsValue

/-- Numbers followed by zeros without end. -/
def padded (ns : List Nat) : Lex (ℕ → ℕ) :=
  toLex fun i => ns.getD i 0

/-- What texts are compared by. -/
def rank (cs : List Char) : Lex (ℕ → ℕ) :=
  padded (numbers cs)

/-- A sequence goes on with zeros behind its numbers. -/
theorem padded_apply (ns : List Nat) (i : ℕ) : padded ns i = ns.getD i 0 := rfl

/-- Sequences are compared at their first numbers, and behind them if these are equal. -/
theorem padded_cons_lt_iff (a b : Nat) (as bs : List Nat) :
    padded (a :: as) < padded (b :: bs) ↔ a < b ∨ a = b ∧ padded as < padded bs := by
  constructor
  · rintro ⟨i, hbefore, hlt⟩
    cases i with
    | zero => exact Or.inl hlt
    | succ i =>
      refine Or.inr ⟨hbefore 0 i.succ_pos, i, fun j hj => ?_, hlt⟩
      exact hbefore (j + 1) (Nat.succ_lt_succ hj)
  · rintro (hlt | ⟨rfl, i, hbefore, hlt⟩)
    · exact ⟨0, fun j hj => absurd hj (Nat.not_lt_zero j), hlt⟩
    · refine ⟨i + 1, fun j hj => ?_, hlt⟩
      cases j with
      | zero => rfl
      | succ j => exact hbefore j (Nat.lt_of_succ_lt_succ hj)

/-- Sequences are equal if their first numbers and the rest are. -/
theorem padded_cons_inj (a b : Nat) (as bs : List Nat) :
    padded (a :: as) = padded (b :: bs) ↔ a = b ∧ padded as = padded bs := by
  constructor
  · intro h
    exact ⟨congrFun h 0, funext fun i => congrFun h (i + 1)⟩
  · rintro ⟨rfl, h⟩
    funext i
    cases i with
    | zero => rfl
    | succ i => exact congrFun h i

/-! ## Keys are compared as ranks are -/

/-- Numbers that do not end in a zero. -/
def Trimmed (ns : List Nat) : Prop :=
  ns.getLast? ≠ some 0

/-- Trimmed numbers stay so without the first. -/
theorem Trimmed.tail {n : Nat} {ns : List Nat} (h : Trimmed (n :: ns)) : Trimmed ns := by
  cases ns with
  | nil => exact nofun
  | cons m ns => rwa [Trimmed, List.getLast?_cons_cons] at h

/-- Trimmed numbers are told apart from no numbers by the last of them. -/
theorem padded_ne_bot {n : Nat} {ns : List Nat} (h : Trimmed (n :: ns)) :
    padded (n :: ns) ≠ ⊥ := by
  induction ns generalizing n with
  | nil =>
    intro hbot
    have hn : n = 0 := congrFun hbot 0
    exact h (congrArg some hn)
  | cons m ns ih =>
    intro hbot
    exact ih h.tail (funext fun i => congrFun hbot (i + 1))

/-- Zeros at the end are left out, and other numbers kept. -/
theorem trimZeros_concat (ns : List Nat) (n : Nat) :
    trimZeros (ns ++ [n]) = if n = 0 then trimZeros ns else ns ++ [n] := by
  unfold trimZeros
  rw [List.reverse_concat, List.dropWhile_cons]
  simp only [decide_eq_true_eq]
  split
  · rfl
  · rw [List.reverse_cons, List.reverse_reverse]

/-- What is left without zeros at the end is trimmed. -/
theorem trimmed_trimZeros (ns : List Nat) : Trimmed (trimZeros ns) := by
  induction ns using List.reverseRecOn with
  | nil => exact nofun
  | append_singleton ns n ih =>
    rw [trimZeros_concat]
    split
    · exact ih
    · rename_i hn
      rw [Trimmed, List.getLast?_concat]
      exact fun h => hn (Option.some.inj h)

/-- A zero at the end changes nothing, as zeros follow anyway. -/
theorem padded_concat_zero (ns : List Nat) : padded (ns ++ [0]) = padded ns := by
  funext i
  rw [padded_apply, padded_apply, List.getD_eq_getElem?_getD, List.getD_eq_getElem?_getD]
  grind

/-- Zeros at the end do not change the sequence. -/
theorem padded_trimZeros (ns : List Nat) : padded (trimZeros ns) = padded ns := by
  induction ns using List.reverseRecOn with
  | nil => rfl
  | append_singleton ns n ih =>
    rw [trimZeros_concat]
    split
    · rename_i hn
      rw [ih, hn, padded_concat_zero]
    · rfl

/-- Keys are compared as the sequences that they begin. -/
theorem keyLt_iff {as bs : List Nat} (ha : Trimmed as) (hb : Trimmed bs) :
    keyLt as bs = true ↔ padded as < padded bs := by
  induction as generalizing bs with
  | nil =>
    cases bs with
    | nil => exact iff_of_false Bool.false_ne_true (lt_irrefl _)
    | cons b bs => exact iff_of_true rfl (bot_lt_iff_ne_bot.mpr (padded_ne_bot hb))
  | cons a as ih =>
    cases bs with
    | nil => exact iff_of_false Bool.false_ne_true not_lt_bot
    | cons b bs =>
      rw [padded_cons_lt_iff, ← ih ha.tail hb.tail, keyLt]
      simp

/-- Trimmed numbers are told apart by their sequences. -/
theorem padded_inj {as bs : List Nat} (ha : Trimmed as) (hb : Trimmed bs) :
    padded as = padded bs ↔ as = bs := by
  induction as generalizing bs with
  | nil =>
    cases bs with
    | nil => simp
    | cons b bs => exact iff_of_false (padded_ne_bot hb).symm nofun
  | cons a as ih =>
    cases bs with
    | nil => exact iff_of_false (padded_ne_bot ha) nofun
    | cons b bs => rw [padded_cons_inj, ih ha.tail hb.tail, List.cons.injEq]

/-! ## Numbers in texts -/

/-- The runs of digits are the parts between what is no digit. -/
theorem digitRunsFrom_eq (cs : List Char) : ∀ current,
    digitRunsFrom current cs = ((cs.splitOnP fun c => !Text.isDigit c).modifyHead
      (current.reverse ++ ·)).filter (· ≠ []) := by
  induction cs with
  | nil =>
    intro current
    cases current <;> simp [digitRunsFrom]
  | cons c cs ih =>
    intro current
    obtain ⟨first, rest, hs⟩ := List.exists_cons_of_ne_nil (List.splitOnP_ne_nil
      (fun c => !Text.isDigit c) cs)
    rw [digitRunsFrom, List.splitOnP_cons_eq_if_modifyHead, ih, ih, hs]
    cases Text.isDigit c with
    | true => simp
    | false => cases current <;> simp [List.filter_cons]

/-- The runs that the scan finds are those between the characters that are no digits. -/
theorem map_digitRuns (cs : List Char) : (digitRuns cs).map Text.digitsValue = numbers cs := by
  rw [digitRuns, digitRunsFrom_eq, numbers]
  obtain ⟨first, rest, hs⟩ := List.exists_cons_of_ne_nil (List.splitOnP_ne_nil
    (fun c => !Text.isDigit c) cs)
  rw [hs]
  rfl

/-- The key of a readable text. -/
theorem key_eq {cs : List Char} (h : Readable cs) : key cs = .ok (trimZeros (numbers cs)) := by
  rw [key, mapM_digitRuns h, map_digitRuns]

/-- Readable texts have keys that are compared as their ranks are. -/
theorem exists_keys {as bs : List Char} (ha : Readable as) (hb : Readable bs) :
    ∃ k l, key as = .ok k ∧ key bs = .ok l ∧
      (keyLt k l = true ↔ rank as < rank bs) ∧ (keyLt l k = true ↔ rank bs < rank as) ∧
      (k = l ↔ rank as = rank bs) := by
  refine ⟨_, _, key_eq ha, key_eq hb, ?_, ?_, ?_⟩
  · rw [keyLt_iff (trimmed_trimZeros _) (trimmed_trimZeros _), padded_trimZeros, padded_trimZeros]
    rfl
  · rw [keyLt_iff (trimmed_trimZeros _) (trimmed_trimZeros _), padded_trimZeros, padded_trimZeros]
    rfl
  · rw [← padded_inj (trimmed_trimZeros _) (trimmed_trimZeros _), padded_trimZeros,
      padded_trimZeros]
    rfl

/-! ## What does not change a rank -/

/-- What is no digit separates the numbers before it from those after it. -/
theorem numbers_append_cons {c : Char} (h : Text.isDigit c = false) (as bs : List Char) :
    numbers (as ++ c :: bs) = numbers as ++ numbers bs := by
  unfold numbers
  rw [List.splitOnP_append_cons as bs (by rw [h]; rfl), List.filter_append, List.map_append]

/-- A blank text has no numbers. -/
theorem numbers_of_blank {cs : List Char} (h : cs.all Text.isBlank) : numbers cs = [] := by
  induction cs with
  | nil => rfl
  | cons c cs ih =>
    rw [List.all_cons, Bool.and_eq_true] at h
    have hcons := numbers_append_cons (Text.isDigit_of_isBlank h.1) [] cs
    rw [List.nil_append] at hcons
    rw [hcons, ih h.2]
    rfl

/-- Blanks at the front have no numbers. -/
theorem numbers_blank_append {before : List Char} (h : before.all Text.isBlank) (cs : List Char) :
    numbers (before ++ cs) = numbers cs := by
  induction before with
  | nil => rfl
  | cons c before ih =>
    rw [List.all_cons, Bool.and_eq_true] at h
    have hcons := numbers_append_cons (Text.isDigit_of_isBlank h.1) [] (before ++ cs)
    rw [List.nil_append] at hcons
    rw [List.cons_append, hcons, ih h.2]
    rfl

/-- Blanks at the end have no numbers. -/
theorem numbers_append_blank {after : List Char} (h : after.all Text.isBlank) (cs : List Char) :
    numbers (cs ++ after) = numbers cs := by
  cases after with
  | nil => rw [List.append_nil]
  | cons c after =>
    rw [List.all_cons, Bool.and_eq_true] at h
    rw [numbers_append_cons (Text.isDigit_of_isBlank h.1), numbers_of_blank h.2, List.append_nil]

/-- Blanks around a text do not change its rank. -/
theorem rank_strip (cs : List Char) : rank (Text.strip cs) = rank cs := by
  obtain ⟨before, after, hb, ha, hcs⟩ := Text.exists_surrounded cs
  have hnumbers : numbers cs = numbers (Text.strip cs) := by
    conv_lhs => rw [hcs]
    rw [numbers_append_blank ha, numbers_blank_append hb]
  rw [rank, rank, hnumbers]

/-- A point and a zero at the end of a text do not change its rank. -/
theorem rank_append_zero (cs : List Char) : rank (cs ++ ['.', '0']) = rank cs := by
  have hpoint : Text.isDigit '.' = false := by decide +kernel
  have hzero : numbers ['0'] = [0] := by decide +kernel
  rw [rank, numbers_append_cons hpoint, hzero, padded_concat_zero]
  rfl

/-- Texts that are readable on both sides of a character that is no digit are readable with it. -/
theorem Readable.append_cons {as bs : List Char} {c : Char} (ha : Readable as) (hb : Readable bs)
    (hc : Text.isDigit c = false) : Readable (as ++ c :: bs) := by
  intro run hinfix hdigits
  have hstart : ∀ part, part <+: c :: bs → part.all Text.isDigit → part = [] := by
    intro part hpart hall
    cases part with
    | nil => rfl
    | cons d part =>
      obtain ⟨rfl, -⟩ := List.cons_prefix_cons.mp hpart
      rw [List.all_cons, hc] at hall
      cases hall
  -- A run of digits is on one side of the separator, or ends at it.
  rcases List.infix_append_iff.mp hinfix with hleft | hright | ⟨l₁, l₂, rfl, hsuffix, hpart⟩
  · exact ha run hleft hdigits
  · rcases List.infix_cons_iff.mp hright with hpart | hright
    · rw [hstart run hpart hdigits]
      exact Nat.zero_le _
    · exact hb run hright hdigits
  · rw [List.all_append, Bool.and_eq_true] at hdigits
    rw [hstart l₂ hpart hdigits.2, List.append_nil]
    exact ha l₁ hsuffix.isInfix hdigits.1

/-- A zero at the end can be read. -/
theorem Readable.append_zero {cs : List Char} (h : Readable cs) : Readable (cs ++ ['.', '0']) :=
  h.append_cons (readable_of_length_le (by decide)) (by decide +kernel)

/-- There are no digits in a blank text. -/
theorem readable_of_blank {cs : List Char} (h : cs.all Text.isBlank) : Readable cs := by
  intro run hpart hdigits
  cases run with
  | nil => exact Nat.zero_le _
  | cons c run =>
    have hblank := List.all_eq_true.mp h c (hpart.subset List.mem_cons_self)
    rw [List.all_cons, Text.isDigit_of_isBlank hblank] at hdigits
    cases hdigits

end Downlevel.Version
