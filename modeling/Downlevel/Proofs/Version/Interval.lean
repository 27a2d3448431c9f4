import Downlevel.Proofs.Text.Joining
import Downlevel.Proofs.Version.Order
/-!
# Ranges are intervals

A requirement in brackets with one comma is a range. The versions that meet it are those whose rank
lies between the ranks of its ends, where a blank end is no bound and a round bracket leaves the end
itself out. So the range holds with two versions all between them, it is met where its two halves are,
and it does not notice a number zero at the end of a version.
-/
namespace Downlevel.Version

/-! ## Ranges in writing -/

/-- A requirement that is written as a range: two ends without a comma, brackets around them, and
blanks around the whole. -/
structure RangeText where
  before : List Char
  lowOpen : Bool
  low : List Char
  high : List Char
  highOpen : Bool
  after : List Char
  blank_before : before.all Text.isBlank
  comma_low : ',' ∉ low
  comma_high : ',' ∉ high
  blank_after : after.all Text.isBlank

namespace RangeText

/-- The bracket in front of the lower end. -/
def opening (r : RangeText) : Char :=
  if r.lowOpen then '(' else '['

/-- The bracket behind the upper end. -/
def closing (r : RangeText) : Char :=
  if r.highOpen then ')' else ']'

/-- A range in writing without the blanks around it. -/
def body (r : RangeText) : List Char :=
  r.opening :: (r.low ++ ',' :: r.high ++ [r.closing])

/-- A range in writing. -/
def text (r : RangeText) : String :=
  String.ofList (r.before ++ r.body ++ r.after)

/-- A version is not below the lower end. -/
def AboveLow (r : RangeText) (version : String) : Prop :=
  r.low.all Text.isBlank ∨ rank r.low < rank version.toList ∨
    rank r.low = rank version.toList ∧ r.lowOpen = false

/-- A version is not above the upper end. -/
def BelowHigh (r : RangeText) (version : String) : Prop :=
  r.high.all Text.isBlank ∨ rank version.toList < rank r.high ∨
    rank version.toList = rank r.high ∧ r.highOpen = false

variable {r : RangeText} {p q : String}

/-- A later version is above the lower end too. -/
theorem AboveLow.mono (h : r.AboveLow p) (hpq : rank p.toList ≤ rank q.toList) : r.AboveLow q := by
  rcases h with hblank | hlt | ⟨heq, hsquare⟩
  · exact Or.inl hblank
  · exact Or.inr (Or.inl (hlt.trans_le hpq))
  · rcases lt_or_eq_of_le hpq with hlt | heq'
    · exact Or.inr (Or.inl (heq.trans_lt hlt))
    · exact Or.inr (Or.inr ⟨heq.trans heq', hsquare⟩)

/-- An earlier version is below the upper end too. -/
theorem BelowHigh.mono (h : r.BelowHigh q) (hpq : rank p.toList ≤ rank q.toList) :
    r.BelowHigh p := by
  rcases h with hblank | hlt | ⟨heq, hsquare⟩
  · exact Or.inl hblank
  · exact Or.inr (Or.inl (hpq.trans_lt hlt))
  · rcases lt_or_eq_of_le hpq with hlt | heq'
    · exact Or.inr (Or.inl (hlt.trans_eq heq))
    · exact Or.inr (Or.inr ⟨heq'.trans heq, hsquare⟩)

end RangeText

/-! ## Reading ranges -/

/-- Cutting at the only separator gives what stands before and after it. -/
theorem splitOn_append_cons {sep : Char} {as bs : List Char} (ha : sep ∉ as) (hb : sep ∉ bs) :
    Text.splitOn sep (as ++ sep :: bs) = [as, bs] := by
  have hparts : ∀ cs ∈ [as, bs], sep ∉ cs := by
    rintro cs (_ | ⟨_, _ | ⟨_, ⟨⟩⟩⟩)
    · exact ha
    · exact hb
  rw [Text.splitOn_eq_list_splitOn, ← List.splitOn_intercalate sep hparts (List.cons_ne_nil _ _)]
  simp

/-- A text that is cut into two had one separator. -/
theorem eq_append_cons_of_splitOn {sep : Char} {cs as bs : List Char}
    (h : Text.splitOn sep cs = [as, bs]) : cs = as ++ sep :: bs ∧ sep ∉ as ∧ sep ∉ bs := by
  have hparts : ∀ part ∈ Text.splitOn sep cs, sep ∉ part := Text.not_mem_of_mem_splitOn cs
  have hjoined : [sep].intercalate (cs.splitOn sep) = cs := List.intercalate_splitOn sep
  rw [h] at hparts
  rw [← Text.splitOn_eq_list_splitOn, h] at hjoined
  refine ⟨?_, hparts as (by simp), hparts bs (by simp)⟩
  rw [← hjoined]
  simp

namespace RangeText

variable (r : RangeText)

/-- The body of a range begins and ends with its brackets, so it is bare. -/
theorem bare_body : Text.Bare r.body := by
  have hopening : Text.isBlank r.opening = false := by
    unfold opening
    cases r.lowOpen <;> decide +kernel
  have hclosing : Text.isBlank r.closing = false := by
    unfold closing
    cases r.highOpen <;> decide +kernel
  constructor
  · rintro c ⟨⟩
    exact hopening
  · intro c hc
    rw [body, ← List.cons_append, List.getLast?_concat] at hc
    cases hc
    exact hclosing

/-- Stripping the text of a range gives its body. -/
theorem strip_text : Text.strip r.text.toList = r.body := by
  rw [text, String.toList_ofList, Text.strip_surrounded r.blank_before r.blank_after r.bare_body]

/-- The body of a range is read back. -/
theorem range?_body :
    range? r.body = some ⟨Text.strip r.low, r.lowOpen, Text.strip r.high, r.highOpen⟩ := by
  have hopening : ((r.opening = '[' || r.opening = '(') : Bool) = true ∧
      ((r.opening = '(') : Bool) = r.lowOpen := by
    unfold opening
    cases r.lowOpen <;> decide
  have hclosing : ((r.closing = ']' || r.closing = ')') : Bool) = true ∧
      ((r.closing = ')') : Bool) = r.highOpen := by
    unfold closing
    cases r.highOpen <;> decide
  unfold body range?
  dsimp only
  rw [List.getLast?_concat]
  dsimp only
  rw [hopening.1, hclosing.1, Bool.and_self, if_pos rfl, List.dropLast_concat,
    splitOn_append_cons r.comma_low r.comma_high]
  dsimp only
  rw [hopening.2, hclosing.2]

/-- What is read as a range is written as one. -/
theorem exists_text_eq {requirement : String} {range : Range}
    (h : range? (Text.strip requirement.toList) = some range) :
    ∃ r : RangeText, r.text = requirement := by
  obtain ⟨before, after, hbefore, hafter, hcs⟩ := Text.exists_surrounded requirement.toList
  unfold range? at h
  split at h
  · cases h
  · rename_i first rest hbody
    split at h
    · cases h
    · rename_i last hlast
      split at h
      · rename_i hbrackets
        split at h
        · rename_i low high hends
          simp only [Bool.and_eq_true, Bool.or_eq_true, decide_eq_true_eq] at hbrackets
          obtain ⟨hopening, hclosing⟩ := hbrackets
          obtain ⟨hmiddle, hlow, hhigh⟩ := eq_append_cons_of_splitOn hends
          have hrest : rest = low ++ ',' :: high ++ [last] := by
            rw [← hmiddle, List.dropLast_append_getLast? last hlast]
          -- The brackets, the ends and the blanks around them make up the text.
          refine ⟨⟨before, first = '(', low, high, last = ')', after, hbefore, hlow, hhigh, hafter⟩,
            ?_⟩
          have hfirst : opening ⟨before, first = '(', low, high, last = ')', after, hbefore, hlow,
              hhigh, hafter⟩ = first := by
            rcases hopening with rfl | rfl <;> rfl
          have hend : closing ⟨before, first = '(', low, high, last = ')', after, hbefore, hlow,
              hhigh, hafter⟩ = last := by
            rcases hclosing with rfl | rfl <;> rfl
          rw [text, body, hfirst, hend, ← String.toList_inj, String.toList_ofList, hcs, hbody,
            hrest]
        · cases h
      · cases h

/-! ## Membership -/

/-- What does not come before an end, and is not an end that is left out, is behind the end or is an
end that counts. -/
theorem not_before_iff (x y : Lex (ℕ → ℕ)) (isOpen : Bool) :
    (¬ y < x ∧ (y = x → isOpen = false)) ↔ (x < y ∨ x = y ∧ isOpen = false) := by
  constructor
  · rintro ⟨hnot, hopen⟩
    rcases lt_trichotomy x y with hlt | heq | hgt
    · exact Or.inl hlt
    · exact Or.inr ⟨heq, hopen heq.symm⟩
    · exact absurd hgt hnot
  · rintro (hlt | ⟨rfl, hopen⟩)
    · exact ⟨lt_asymm hlt, fun heq => absurd heq hlt.ne'⟩
    · exact ⟨lt_irrefl _, fun _ => hopen⟩

/-- The key of a version is held against the lower end. -/
theorem exists_aboveLow {version : String} {k : List Nat} (hlow : Readable r.low)
    (hversion : Readable version.toList) (hk : key version.toList = .ok k) (high : List Char)
    (highOpen : Bool) :
    ∃ b, Range.aboveLow ⟨Text.strip r.low, r.lowOpen, high, highOpen⟩ k = .ok b ∧
      (b = true ↔ r.AboveLow version) := by
  obtain ⟨k', l, hk', hl, hlt, -, heq⟩ :=
    exists_keys hversion (hlow.of_infix (Text.strip_infix r.low))
  rw [rank_strip] at hlt heq
  cases hk.symm.trans hk'
  unfold Range.aboveLow AboveLow
  dsimp only
  rw [← Text.strip_eq_nil_iff]
  -- An empty end is no bound; any other one is compared by its rank.
  split
  · rename_i hnil
    exact ⟨true, rfl, iff_of_true rfl (Or.inl hnil)⟩
  · rename_i hnil
    rw [hl]
    refine ⟨_, rfl, ?_⟩
    simp only [Bool.not_eq_true', Bool.or_eq_false_iff, Bool.and_eq_false_imp, beq_iff_eq, heq,
      hnil, false_or]
    rw [← Bool.not_eq_true, hlt]
    exact not_before_iff _ _ _

/-- The key of a version is held against the upper end. -/
theorem exists_belowHigh {version : String} {k : List Nat} (hhigh : Readable r.high)
    (hversion : Readable version.toList) (hk : key version.toList = .ok k) (low : List Char)
    (lowOpen : Bool) :
    ∃ b, Range.belowHigh ⟨low, lowOpen, Text.strip r.high, r.highOpen⟩ k = .ok b ∧
      (b = true ↔ r.BelowHigh version) := by
  obtain ⟨k', l, hk', hl, -, hgt, heq⟩ :=
    exists_keys hversion (hhigh.of_infix (Text.strip_infix r.high))
  rw [rank_strip] at hgt heq
  cases hk.symm.trans hk'
  unfold Range.belowHigh BelowHigh
  dsimp only
  rw [← Text.strip_eq_nil_iff]
  split
  · rename_i hnil
    exact ⟨true, rfl, iff_of_true rfl (Or.inl hnil)⟩
  · rename_i hnil
    rw [hl]
    refine ⟨_, rfl, ?_⟩
    simp only [Bool.not_eq_true', Bool.or_eq_false_iff, Bool.and_eq_false_imp, beq_iff_eq, heq,
      hnil, false_or]
    rw [← Bool.not_eq_true, hgt, eq_comm (a := rank version.toList)]
    exact (not_before_iff _ _ _).trans (by rw [eq_comm])

/-- A version meets a range if and only if it lies between its ends. -/
theorem meets_text (hlow : Readable r.low) (hhigh : Readable r.high) {version : String}
    (hversion : Readable version.toList) :
    ∃ b, meets r.text version = .ok b ∧ (b = true ↔ r.AboveLow version ∧ r.BelowHigh version) := by
  obtain ⟨k, hk⟩ := exists_key hversion
  obtain ⟨above, habove, hlowIff⟩ := r.exists_aboveLow hlow hversion hk (Text.strip r.high) r.highOpen
  obtain ⟨below, hbelow, hhighIff⟩ := r.exists_belowHigh hhigh hversion hk (Text.strip r.low) r.lowOpen
  unfold meets
  dsimp only
  rw [strip_text, range?_body]
  dsimp only
  rw [Range.contains, hk]
  dsimp only
  rw [habove]
  -- The high end is only looked at if the version is above the low one.
  cases above with
  | false =>
    exact ⟨false, rfl, iff_of_false Bool.false_ne_true fun h =>
      Bool.false_ne_true (hlowIff.mpr h.1)⟩
  | true =>
    refine ⟨below, hbelow, hhighIff.trans ?_⟩
    rw [and_iff_right (hlowIff.mp rfl)]

/-- Two ranges that bound versions alike are met by the same versions. -/
theorem meets_congr {r r' : RangeText} {p p' : String} (hlow : Readable r.low)
    (hhigh : Readable r.high) (hlow' : Readable r'.low) (hhigh' : Readable r'.high)
    (hp : Readable p.toList) (hp' : Readable p'.toList)
    (h : (r'.AboveLow p' ∧ r'.BelowHigh p') ↔ (r.AboveLow p ∧ r.BelowHigh p)) :
    meets r'.text p' = meets r.text p := by
  obtain ⟨b, hb, hiff⟩ := r.meets_text hlow hhigh hp
  obtain ⟨b', hb', hiff'⟩ := r'.meets_text hlow' hhigh' hp'
  rw [hb, hb', Bool.eq_iff_iff.mpr ((hiff'.trans h).trans hiff.symm)]

/-- A version meets a range if and only if it is above its low end and below its high one. -/
theorem meets_text_iff (hlow : Readable r.low) (hhigh : Readable r.high) {version : String}
    (hversion : Readable version.toList) :
    meets r.text version = .ok true ↔ r.AboveLow version ∧ r.BelowHigh version := by
  obtain ⟨b, hb, hiff⟩ := r.meets_text hlow hhigh hversion
  rw [hb, ← hiff, Except.ok.injEq]

end RangeText

/-! ## A number zero at the end -/

/-- A text as it is, or with a point and a zero at its end. -/
def WithZero (cs cs' : List Char) : Prop :=
  cs' = cs ∨ cs' = cs ++ ['.', '0']

/-- An end of a range as it is, or with a point and a zero if it is not blank. -/
def EndWithZero (cs cs' : List Char) : Prop :=
  cs' = cs ∨ ¬ cs.all Text.isBlank ∧ cs' = cs ++ ['.', '0']

variable {cs cs' : List Char}

/-- A zero at the end does not change the rank. -/
theorem WithZero.rank_eq (h : WithZero cs cs') : rank cs' = rank cs := by
  rcases h with rfl | rfl
  · rfl
  · exact rank_append_zero cs

/-- A zero at the end can be read. -/
theorem WithZero.readable (h : WithZero cs cs') (hcs : Readable cs) : Readable cs' := by
  rcases h with rfl | rfl
  · exact hcs
  · exact hcs.append_zero

theorem EndWithZero.withZero (h : EndWithZero cs cs') : WithZero cs cs' :=
  h.imp id And.right

/-- A zero is put only behind an end that is not blank. -/
theorem EndWithZero.all_isBlank (h : EndWithZero cs cs') :
    cs'.all Text.isBlank = cs.all Text.isBlank := by
  rcases h with rfl | ⟨hcs, rfl⟩
  · rfl
  · have hpoint : Text.isBlank '.' = false := by decide +kernel
    rw [List.all_append, List.all_cons, hpoint, Bool.false_and, Bool.and_false]
    exact (Bool.not_eq_true _ ▸ hcs).symm

/-! ## Intervals -/

/-- **Ranges are intervals of one total order.** Whether a version meets a range is always answered,
and it does if and only if its rank lies between the ranks of the ends: behind the lower one or equal
to it where the bracket is square, before the upper one or equal to it where the bracket is square,
and a blank end is no bound. So what lies between two versions in the range is in the range; the range
is met where both of its halves are, in which the other end is blank; and a point and a zero at the
end of a version, or of an end that is not blank, make no difference. -/
theorem range_is_interval (r : RangeText) (hlow : Readable r.low) (hhigh : Readable r.high) :
    (∀ p : String, Readable p.toList →
      ∃ b, meets r.text p = .ok b ∧ (b = true ↔ r.AboveLow p ∧ r.BelowHigh p)) ∧
    (∀ p q t : String, Readable p.toList → Readable q.toList → Readable t.toList →
      rank p.toList ≤ rank q.toList → rank q.toList ≤ rank t.toList →
      meets r.text p = .ok true → meets r.text t = .ok true → meets r.text q = .ok true) ∧
    (∀ lower upper : RangeText,
      lower.low = r.low → lower.lowOpen = r.lowOpen → lower.high.all Text.isBlank →
      upper.high = r.high → upper.highOpen = r.highOpen → upper.low.all Text.isBlank →
      ∀ p : String, Readable p.toList →
        (meets r.text p = .ok true ↔
          meets lower.text p = .ok true ∧ meets upper.text p = .ok true)) ∧
    (∀ r' : RangeText, r'.lowOpen = r.lowOpen → r'.highOpen = r.highOpen →
      EndWithZero r.low r'.low → EndWithZero r.high r'.high →
      ∀ p p' : String, Readable p.toList → WithZero p.toList p'.toList →
        meets r'.text p' = meets r.text p) := by
  -- All four parts are about ranks, as a version is in the range if its rank is.
  refine ⟨fun p hp => r.meets_text hlow hhigh hp, ?_, ?_, ?_⟩
  · intro p q t hp hq ht hpq hqt hmeetsp hmeetst
    rw [r.meets_text_iff hlow hhigh hp] at hmeetsp
    rw [r.meets_text_iff hlow hhigh ht] at hmeetst
    rw [r.meets_text_iff hlow hhigh hq]
    exact ⟨hmeetsp.1.mono hpq, hmeetst.2.mono hqt⟩
  · intro lower upper hl hlo hlh hu huo hul p hp
    have habove : lower.AboveLow p ↔ r.AboveLow p := by
      unfold RangeText.AboveLow
      rw [hl, hlo]
    have hbelow : upper.BelowHigh p ↔ r.BelowHigh p := by
      unfold RangeText.BelowHigh
      rw [hu, huo]
    rw [r.meets_text_iff hlow hhigh hp,
      lower.meets_text_iff (hl ▸ hlow) (readable_of_blank hlh) hp,
      upper.meets_text_iff (readable_of_blank hul) (hu ▸ hhigh) hp, habove, hbelow,
      and_iff_left (show lower.BelowHigh p from Or.inl hlh),
      and_iff_right (show upper.AboveLow p from Or.inl hul)]
  · intro r' hlo hho hl hh p p' hp hp'
    refine RangeText.meets_congr hlow hhigh (hl.withZero.readable hlow)
      (hh.withZero.readable hhigh) hp (hp'.readable hp) ?_
    unfold RangeText.AboveLow RangeText.BelowHigh
    rw [hl.all_isBlank, hh.all_isBlank, hl.withZero.rank_eq, hh.withZero.rank_eq, hp'.rank_eq, hlo,
      hho]

/-- A range with blanks and different brackets, and ends that are written unlike the version. -/
def spacedRange : RangeText :=
  ⟨[' '], true, " 1_8 ".toList, "1.10.0".toList, false, ['\n'], by decide, by decide, by decide,
    by decide⟩

/-- It is met by its upper end and not by its lower one, however they are written. -/
theorem range_is_interval_spaced :
    spacedRange.text = " ( 1_8 ,1.10.0]\n" ∧
      meets " ( 1_8 ,1.10.0]\n" "01-10" = .ok true ∧
      meets " ( 1_8 ,1.10.0]\n" "1.8.0" = .ok false := by
  have htext : spacedRange.text = " ( 1_8 ,1.10.0]\n" := by decide +kernel
  have hlow : Readable spacedRange.low := readable_of_length_le (by decide)
  have hhigh : Readable spacedRange.high := readable_of_length_le (by decide)
  have hlowRank : rank spacedRange.low = padded [1, 8] := congrArg padded (by decide +kernel)
  have hhighRank : rank spacedRange.high = padded [1, 10] := padded_concat_zero [1, 10]
  obtain ⟨hmeets, -⟩ := range_is_interval spacedRange hlow hhigh
  rw [htext] at hmeets
  refine ⟨htext, ?_, ?_⟩
  · have hversion : rank "01-10".toList = padded [1, 10] := congrArg padded (by decide +kernel)
    obtain ⟨b, hb, hiff⟩ := hmeets "01-10" (readable_of_length_le (by decide))
    rw [hb, hiff.mpr ⟨Or.inr (Or.inl ?_), Or.inr (Or.inr ⟨hversion.trans hhighRank.symm, rfl⟩)⟩]
    rw [hlowRank, hversion, padded_cons_lt_iff, padded_cons_lt_iff]
    exact Or.inr ⟨rfl, Or.inl (by decide)⟩
  · have hversion : rank "1.8.0".toList = padded [1, 8] := padded_concat_zero [1, 8]
    obtain ⟨b, hb, hiff⟩ := hmeets "1.8.0" (readable_of_length_le (by decide))
    cases b with
    | false => exact hb
    | true =>
      rcases (hiff.mp rfl).1 with hblank | hlt | ⟨-, hsquare⟩
      · exact absurd hblank (by decide +kernel)
      · rw [hlowRank, hversion] at hlt
        exact absurd hlt (lt_irrefl _)
      · cases hsquare

end Downlevel.Version
