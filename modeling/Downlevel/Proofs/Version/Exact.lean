import Downlevel.Proofs.Version.Interval
/-!
# Exact versions

A requirement that is no range is met by the versions that are like it: those with the same text
between the blanks, and if it is digit groups with separators between them, those of that kind with the
same rank. To be alike is an equivalence relation, and among versions of digit groups it is one of the
three cases of the order that ranges are intervals of.
-/
namespace Downlevel.Version

/-! ## Digit groups -/

/-- A group of digits. -/
def IsGroup (g : List Char) : Prop :=
  g ≠ [] ∧ g.all Text.isDigit

instance (g : List Char) : Decidable (IsGroup g) :=
  inferInstanceAs (Decidable (g ≠ [] ∧ g.all Text.isDigit))

/-- A text is digit groups with single separators between them. -/
inductive Grouped : List (List Char) → List Char → Prop
  | last {g : List Char} (hg : IsGroup g) : Grouped [g] g
  | cons {g : List Char} {gs : List (List Char)} {c : Char} {cs : List Char} (hg : IsGroup g)
      (hc : isSeparator c) (hcs : Grouped gs cs) : Grouped (g :: gs) (g ++ c :: cs)

/-- A separator is no digit. -/
theorem isDigit_of_isSeparator {c : Char} (h : isSeparator c = true) : Text.isDigit c = false := by
  simp only [isSeparator, Bool.or_eq_true, decide_eq_true_eq] at h
  rcases h with (rfl | rfl) | rfl <;> decide +kernel

/-- Inside a group digits do not change the outcome. -/
theorem isNumeric_go_append {g : List Char} (h : g.all Text.isDigit) (cs : List Char) :
    isNumeric.go true (g ++ cs) = isNumeric.go true cs := by
  induction g with
  | nil => rfl
  | cons c g ih =>
    rw [List.all_cons, Bool.and_eq_true] at h
    rw [List.cons_append, isNumeric.go, if_pos h.1, ih h.2]

/-- Inside a group or not, the scan goes through a group of digits. -/
theorem isNumeric_go_group {g : List Char} (h : IsGroup g) (inside : Bool) (cs : List Char) :
    isNumeric.go inside (g ++ cs) = isNumeric.go true cs := by
  obtain ⟨hne, hall⟩ := h
  cases g with
  | nil => exact absurd rfl hne
  | cons c g =>
    rw [List.all_cons, Bool.and_eq_true] at hall
    rw [List.cons_append, isNumeric.go, if_pos hall.1, isNumeric_go_append hall.2]

/-- Digit groups are numeric. -/
theorem Grouped.isNumeric_go {gs : List (List Char)} {cs : List Char} (h : Grouped gs cs)
    (inside : Bool) : isNumeric.go inside cs = true := by
  induction h generalizing inside with
  | @last g hg =>
    have hgo := isNumeric_go_group hg inside []
    rw [List.append_nil] at hgo
    exact hgo
  | cons hg hc _ ih =>
    rw [isNumeric_go_group hg, isNumeric.go, isDigit_of_isSeparator hc,
      if_neg Bool.false_ne_true, hc, ih]
    rfl

/-- What the scan accepts is digit groups; inside a group the digits before belong to the first. -/
theorem exists_grouped_of_go (cs : List Char) :
    (isNumeric.go false cs = true → ∃ gs, Grouped gs cs) ∧
    (isNumeric.go true cs = true → ∀ g, IsGroup g → ∃ gs, Grouped gs (g ++ cs)) := by
  -- Inside a group the digits so far are part of the first group.
  induction cs with
  | nil =>
    refine ⟨nofun, fun _ g hg => ⟨[g], ?_⟩⟩
    rw [List.append_nil]
    exact .last hg
  | cons c cs ih =>
    obtain ⟨ihOutside, ihInside⟩ := ih
    rw [isNumeric.go, isNumeric.go]
    cases hc : Text.isDigit c with
    | true =>
      rw [if_pos rfl]
      refine ⟨fun h => ihInside h [c] ⟨List.cons_ne_nil _ _, ?_⟩, fun h g hg => ?_⟩
      · rw [List.all_cons, hc]
        rfl
      · obtain ⟨gs, hgs⟩ := ihInside h (g ++ [c]) ⟨by simp, by simp [hg.2, hc]⟩
        rw [List.append_assoc] at hgs
        exact ⟨gs, hgs⟩
    | false =>
      rw [if_neg Bool.false_ne_true, if_neg Bool.false_ne_true]
      refine ⟨nofun, fun h g hg => ?_⟩
      rw [Bool.true_and, Bool.and_eq_true] at h
      obtain ⟨gs, hgs⟩ := ihOutside h.2
      exact ⟨g :: gs, .cons hg h.1 hgs⟩

/-- A text is numeric if and only if it is made of digit groups. -/
theorem isNumeric_iff (cs : List Char) : isNumeric cs = true ↔ ∃ gs, Grouped gs cs :=
  ⟨(exists_grouped_of_go cs).1, fun ⟨_, h⟩ => h.isNumeric_go false⟩

/-- A group of digits is one number. -/
theorem numbers_of_group {g : List Char} (h : IsGroup g) : numbers g = [Text.digitsValue g] := by
  have hdigits : ∀ c ∈ g, (!Text.isDigit c) = false := by
    intro c hc
    rw [List.all_eq_true.mp h.2 c hc]
    rfl
  rw [numbers, List.splitOnP_eq_singleton hdigits, List.filter_cons,
    if_pos (decide_eq_true h.1)]
  rfl

/-- The numbers in digit groups are those that the groups write. -/
theorem Grouped.numbers_eq {gs : List (List Char)} {cs : List Char} (h : Grouped gs cs) :
    numbers cs = gs.map Text.digitsValue := by
  induction h with
  | last hg => exact numbers_of_group hg
  | cons hg hc _ ih =>
    rw [numbers_append_cons (isDigit_of_isSeparator hc), numbers_of_group hg, ih]
    rfl

/-- Digit groups consist of digits and separators. -/
theorem Grouped.isDigit_or_isSeparator {gs : List (List Char)} {cs : List Char}
    (h : Grouped gs cs) : ∀ c ∈ cs, Text.isDigit c = true ∨ isSeparator c = true := by
  induction h with
  | last hg => exact fun c hmem => Or.inl (List.all_eq_true.mp hg.2 c hmem)
  | cons hg hsep _ ih =>
    intro c hmem
    rcases List.mem_append.mp hmem with hmem | hmem
    · exact Or.inl (List.all_eq_true.mp hg.2 c hmem)
    · rcases List.mem_cons.mp hmem with rfl | hmem
      · exact Or.inr hsep
      · exact ih c hmem

/-- Digit groups start with a digit. -/
theorem Grouped.isDigit_of_head {gs : List (List Char)} {c : Char} {cs : List Char}
    (h : Grouped gs (c :: cs)) : Text.isDigit c = true := by
  have hnumeric := h.isNumeric_go false
  rw [isNumeric.go] at hnumeric
  split at hnumeric
  · assumption
  · cases hnumeric

/-- Digit groups have no comma in them, and neither have blanks. -/
theorem comma_not_mem {gs : List (List Char)} {cs : List Char} (h : Grouped gs (Text.strip cs)) :
    ',' ∉ cs := by
  have hblank : ∀ part : List Char, part.all Text.isBlank → ',' ∉ part :=
    fun part hpart hmem => absurd (List.all_eq_true.mp hpart ',' hmem) (by decide)
  obtain ⟨before, after, hbefore, hafter, hcs⟩ := Text.exists_surrounded cs
  rw [hcs, List.mem_append, List.mem_append, not_or, not_or]
  refine ⟨⟨hblank before hbefore, fun hmem => ?_⟩, hblank after hafter⟩
  exact absurd (h.isDigit_or_isSeparator ',' hmem) (by decide +kernel)

/-- Two groups are the same digits, with zeros in front or not. -/
def SameDigits (g g' : List Char) : Prop :=
  ∃ zeros zeros' digits, g = zeros ++ digits ∧ g' = zeros' ++ digits ∧
    ∀ c ∈ zeros ++ zeros', Text.digitValue? c = some 0

/-- Zeros at the front have no value. -/
theorem digitsValue_zeros_append {zeros : List Char}
    (h : ∀ c ∈ zeros, Text.digitValue? c = some 0) (digits : List Char) :
    Text.digitsValue (zeros ++ digits) = Text.digitsValue digits := by
  induction zeros with
  | nil => rfl
  | cons c zeros ih =>
    rw [← ih fun d hd => h d (List.mem_cons_of_mem _ hd), Text.digitsValue, List.cons_append,
      List.foldl_cons, h c List.mem_cons_self]
    rfl

/-- Groups with the same digits have the same value. -/
theorem SameDigits.digitsValue_eq {g g' : List Char} (h : SameDigits g g') :
    Text.digitsValue g = Text.digitsValue g' := by
  obtain ⟨zeros, zeros', digits, rfl, rfl, hzeros⟩ := h
  rw [digitsValue_zeros_append fun c hc => hzeros c (List.mem_append_left _ hc),
    digitsValue_zeros_append fun c hc => hzeros c (List.mem_append_right _ hc)]

/-- Zeros in front of groups do not change the numbers that they write. -/
theorem map_digitsValue_eq {gs gs' : List (List Char)} (h : List.Forall₂ SameDigits gs gs') :
    gs.map Text.digitsValue = gs'.map Text.digitsValue := by
  induction h with
  | nil => rfl
  | cons hsame _ ih => rw [List.map_cons, List.map_cons, hsame.digitsValue_eq, ih]

/-! ## Versions that are alike -/

/-- A text is a range, with blanks around it or not. -/
def IsRange (s : String) : Prop :=
  ∃ r : RangeText, r.text = s

/-- A text is digit groups, with blanks around them or not. -/
def IsNumbered (s : String) : Prop :=
  ∃ gs, Grouped gs (Text.strip s.toList)

/-- Texts are alike if they differ in blanks around them alone, or are digit groups of one rank. -/
def Alike (a p : String) : Prop :=
  Text.strip a.toList = Text.strip p.toList ∨
    IsNumbered a ∧ IsNumbered p ∧ rank a.toList = rank p.toList

variable {a p q : String}

theorem alike_refl (a : String) : Alike a a := Or.inl rfl

/-- Likeness goes both ways. -/
theorem Alike.symm (h : Alike a p) : Alike p a := by
  rcases h with htext | ⟨ha, hp, hrank⟩
  · exact Or.inl htext.symm
  · exact Or.inr ⟨hp, ha, hrank.symm⟩

/-- Whether a version is numbered depends on its stripped text. -/
theorem IsNumbered.of_strip (h : IsNumbered a) (heq : Text.strip a.toList = Text.strip p.toList) :
    IsNumbered p := by
  unfold IsNumbered at *
  rwa [← heq]

/-- The rank depends on the stripped text. -/
theorem rank_eq_of_strip (h : Text.strip a.toList = Text.strip p.toList) :
    rank a.toList = rank p.toList := by
  rw [← rank_strip a.toList, h, rank_strip]

/-- Likeness goes over two steps. -/
theorem Alike.trans (h : Alike a p) (h' : Alike p q) : Alike a q := by
  rcases h with htext | ⟨ha, hp, hrank⟩
  · rcases h' with htext' | ⟨hp, hq, hrank'⟩
    · exact Or.inl (htext.trans htext')
    · exact Or.inr ⟨hp.of_strip htext.symm, hq, (rank_eq_of_strip htext).trans hrank'⟩
  · rcases h' with htext' | ⟨-, hq, hrank'⟩
    · exact Or.inr ⟨ha, hp.of_strip htext', hrank.trans (rank_eq_of_strip htext')⟩
    · exact Or.inr ⟨ha, hq, hrank.trans hrank'⟩

/-- A text that starts with no bracket is no range. -/
theorem not_isRange_of_head {c : Char} {cs : List Char} (h : Text.strip a.toList = c :: cs)
    (hc : c ≠ '[' ∧ c ≠ '(') : ¬ IsRange a := by
  rintro ⟨r, rfl⟩
  rw [r.strip_text] at h
  have hopening : r.opening = c := (List.cons.inj h).1
  unfold RangeText.opening at hopening
  cases hopen : r.lowOpen <;> rw [hopen] at hopening
  · exact hc.1 hopening.symm
  · exact hc.2 hopening.symm

theorem Grouped.ne_nil {gs : List (List Char)} {cs : List Char} (h : Grouped gs cs) : cs ≠ [] := by
  rintro rfl
  exact absurd (h.isNumeric_go false) Bool.false_ne_true

/-- Digit groups are no range. -/
theorem IsNumbered.not_isRange (h : IsNumbered a) : ¬ IsRange a := by
  obtain ⟨gs, hgs⟩ := h
  obtain ⟨c, cs, hcs⟩ := List.exists_cons_of_ne_nil hgs.ne_nil
  rw [hcs] at hgs
  have hdigit := hgs.isDigit_of_head
  refine not_isRange_of_head hcs ⟨?_, ?_⟩ <;> rintro rfl <;>
    exact absurd hdigit (by decide +kernel)

/-- What is no range is not read as one. -/
theorem range?_eq_none (h : ¬ IsRange a) : range? (Text.strip a.toList) = none := by
  cases hrange : range? (Text.strip a.toList) with
  | none => rfl
  | some range => exact absurd (RangeText.exists_text_eq hrange) h

/-- A version meets a requirement that is no range if and only if it is like it. -/
theorem meets_exact (h : ¬ IsRange a) (ha : Readable a.toList) (hp : Readable p.toList) :
    ∃ b, meets a p = .ok b ∧ (b = true ↔ Alike a p) := by
  obtain ⟨k, l, hk, hl, -, -, heq⟩ := exists_keys (ha.of_infix (Text.strip_infix _))
    (hp.of_infix (Text.strip_infix _))
  rw [rank_strip, rank_strip] at heq
  unfold meets
  dsimp only
  rw [range?_eq_none h]
  dsimp only
  -- Both can be read, so they are compared by their keys or by their texts.
  rw [hk, hl]
  split
  · rename_i hnumeric
    rw [Bool.and_eq_true, isNumeric_iff, isNumeric_iff] at hnumeric
    refine ⟨k == l, rfl, beq_iff_eq.trans (heq.trans ⟨fun hrank => ?_, ?_⟩)⟩
    · exact Or.inr ⟨hnumeric.1, hnumeric.2, hrank⟩
    · rintro (htext | ⟨-, -, hrank⟩)
      · exact rank_eq_of_strip htext
      · exact hrank
  · rename_i hnumeric
    rw [Bool.and_eq_true, isNumeric_iff, isNumeric_iff] at hnumeric
    refine ⟨_, rfl, beq_iff_eq.trans ⟨Or.inl, ?_⟩⟩
    rintro (htext | ⟨ha, hp, -⟩)
    · exact htext
    · exact absurd ⟨ha, hp⟩ hnumeric

/-- A version meets an exact requirement if and only if they are alike. -/
theorem meets_exact_iff (h : ¬ IsRange a) (ha : Readable a.toList) (hp : Readable p.toList) :
    meets a p = .ok true ↔ Alike a p := by
  obtain ⟨b, hb, hiff⟩ := meets_exact h ha hp
  rw [hb, ← hiff, Except.ok.injEq]

/-- Versions that are not alike do not meet each other. -/
theorem meets_not_alike (h : ¬ Alike a p) (ha : ¬ IsRange a) (hreadA : Readable a.toList)
    (hreadP : Readable p.toList) : meets a p = .ok false := by
  obtain ⟨b, hb, hiff⟩ := meets_exact ha hreadA hreadP
  rw [hb, Bool.eq_false_iff.mpr fun hb => h (hiff.mp hb)]

/-- A version meets the same requirements, and is met by the same versions, as one that is like
it. -/
theorem meets_alike (h : Alike a p) (ha : ¬ IsRange a) (hp : ¬ IsRange p) (hq : ¬ IsRange q)
    (hreadA : Readable a.toList) (hreadP : Readable p.toList) (hreadQ : Readable q.toList) :
    meets a q = meets p q ∧ meets q a = meets q p := by
  obtain ⟨b₁, hb₁, hiff₁⟩ := meets_exact ha hreadA hreadQ
  obtain ⟨b₂, hb₂, hiff₂⟩ := meets_exact hp hreadP hreadQ
  obtain ⟨b₃, hb₃, hiff₃⟩ := meets_exact hq hreadQ hreadA
  obtain ⟨b₄, hb₄, hiff₄⟩ := meets_exact hq hreadQ hreadP
  have hfirst : b₁ = b₂ := Bool.eq_iff_iff.mpr
    (hiff₁.trans (.trans ⟨h.symm.trans, h.trans⟩ hiff₂.symm))
  have hsecond : b₃ = b₄ := Bool.eq_iff_iff.mpr
    (hiff₃.trans (.trans ⟨fun h' => h'.trans h, fun h' => h'.trans h.symm⟩ hiff₄.symm))
  rw [hb₁, hb₂, hb₃, hb₄, hfirst, hsecond]
  exact ⟨rfl, rfl⟩

/-- Among texts of digit groups those of one rank are alike. -/
theorem alike_iff_rank (ha : IsNumbered a) (hp : IsNumbered p) :
    Alike a p ↔ rank a.toList = rank p.toList :=
  ⟨fun h => h.elim rank_eq_of_strip fun h => h.2.2, fun h => Or.inr ⟨ha, hp, h⟩⟩

/-- A numbered version is not like one that is not numbered. -/
theorem not_alike (ha : IsNumbered a) (hp : ¬ IsNumbered p) : ¬ Alike a p := by
  rintro (htext | ⟨-, hnumbered, -⟩)
  · exact hp (ha.of_strip htext)
  · exact hp hnumbered

/-- The rank of digit groups is that of the numbers that they write. -/
theorem rank_of_grouped {gs : List (List Char)} (h : Grouped gs (Text.strip a.toList)) :
    rank a.toList = padded (gs.map Text.digitsValue) := by
  rw [← rank_strip, rank, h.numbers_eq]

/-! ## Exact versions and ranges -/

/-- The range between two texts without commas. -/
def rangeBetween (lowOpen : Bool) (low high : List Char) (highOpen : Bool) (hlow : ',' ∉ low)
    (hhigh : ',' ∉ high) : RangeText :=
  ⟨[], lowOpen, low, high, highOpen, [], rfl, hlow, hhigh, rfl⟩

/-- The text of a range between two ends. -/
theorem rangeBetween_text {lowOpen highOpen : Bool} {low high : String} (hlow : ',' ∉ low.toList)
    (hhigh : ',' ∉ high.toList) :
    (rangeBetween lowOpen low.toList high.toList highOpen hlow hhigh).text =
      (if lowOpen then "(" else "[") ++ low ++ "," ++ high ++ (if highOpen then ")" else "]") := by
  rw [← String.toList_inj, RangeText.text, String.toList_ofList]
  cases lowOpen <;> cases highOpen <;>
    simp [rangeBetween, RangeText.body, RangeText.opening, RangeText.closing, String.toList_append]

/-- A version lies between two texts if and only if its rank does. -/
theorem meets_between (lowOpen : Bool) (low high : String) (highOpen : Bool) (hlow : ',' ∉ low.toList)
    (hhigh : ',' ∉ high.toList) (hreadLow : Readable low.toList) (hreadHigh : Readable high.toList)
    (hp : Readable p.toList) :
    ∃ b, meets ((if lowOpen then "(" else "[") ++ low ++ "," ++ high ++
        (if highOpen then ")" else "]")) p = .ok b ∧
      (b = true ↔
        (low.toList.all Text.isBlank ∨ rank low.toList < rank p.toList ∨
          rank low.toList = rank p.toList ∧ lowOpen = false) ∧
        (high.toList.all Text.isBlank ∨ rank p.toList < rank high.toList ∨
          rank p.toList = rank high.toList ∧ highOpen = false)) := by
  obtain ⟨b, hb, hiff⟩ := (rangeBetween lowOpen low.toList high.toList highOpen hlow
    hhigh).meets_text hreadLow hreadHigh hp
  rw [rangeBetween_text] at hb
  exact ⟨b, hb, hiff⟩

/-- Just one of equality and the two strict orders holds. -/
theorem count_trichotomy {x y : Lex (ℕ → ℕ)} {equal above below : Bool}
    (hequal : equal = true ↔ x = y) (habove : above = true ↔ x < y)
    (hbelow : below = true ↔ y < x) : [equal, above, below].count true = 1 := by
  rcases lt_trichotomy x y with hlt | heq | hgt
  · rw [Bool.eq_false_iff.mpr fun h => hlt.ne (hequal.mp h), habove.mpr hlt,
      Bool.eq_false_iff.mpr fun h => hlt.asymm (hbelow.mp h)]
    rfl
  · rw [hequal.mpr heq, Bool.eq_false_iff.mpr fun h => (habove.mp h).ne heq,
      Bool.eq_false_iff.mpr fun h => (hbelow.mp h).ne' heq]
    rfl
  · rw [Bool.eq_false_iff.mpr fun h => hgt.ne' (hequal.mp h),
      Bool.eq_false_iff.mpr fun h => hgt.asymm (habove.mp h), hbelow.mpr hgt]
    rfl

/-- Digit groups are met where the range from them to them is; and a version meets just one of them,
what lies behind them, and what lies before them. -/
theorem meets_trichotomy (ha : IsNumbered a) (hp : IsNumbered p) (hreadA : Readable a.toList)
    (hreadP : Readable p.toList) :
    ∃ equal above below, meets a p = .ok equal ∧
      meets ("[" ++ a ++ "," ++ a ++ "]") p = .ok equal ∧
      meets ("(" ++ a ++ ",)") p = .ok above ∧ meets ("(," ++ a ++ ")") p = .ok below ∧
      [equal, above, below].count true = 1 := by
  obtain ⟨gs, hgs⟩ := ha
  have hcomma := comma_not_mem hgs
  have hnil : ¬ a.toList.all Text.isBlank := by
    rw [← Text.strip_eq_nil_iff]
    exact hgs.ne_nil
  have hempty : Readable "".toList := readable_of_blank rfl
  obtain ⟨equal, hequal, hequalIff⟩ := meets_exact (IsNumbered.not_isRange ⟨gs, hgs⟩) hreadA hreadP
  obtain ⟨closed, hclosed, hclosedIff⟩ :=
    meets_between false a a false hcomma hcomma hreadA hreadA hreadP
  obtain ⟨above, habove, haboveIff⟩ :=
    meets_between true a "" true hcomma List.not_mem_nil hreadA hempty hreadP
  obtain ⟨below, hbelow, hbelowIff⟩ :=
    meets_between true "" a true List.not_mem_nil hcomma hempty hreadA hreadP
  rw [alike_iff_rank ⟨gs, hgs⟩ hp] at hequalIff
  simp only [hnil, Bool.false_eq_true, Bool.true_eq_false, String.toList_empty, List.all_nil,
    and_true, and_false, or_false, false_or, true_or, true_and] at hclosedIff haboveIff hbelowIff
  -- A closed range between a version and itself holds what is equal to it.
  have hsame : closed = equal := by
    rw [Bool.eq_iff_iff, hclosedIff, hequalIff]
    exact (and_congr le_iff_lt_or_eq.symm le_iff_lt_or_eq.symm).trans le_antisymm_iff.symm
  rw [hsame] at hclosed
  refine ⟨equal, above, below, hequal, hclosed, ?_, hbelow,
    count_trichotomy hequalIff haboveIff hbelowIff⟩
  rw [← habove, String.append_assoc, String.append_assoc, String.append_assoc]
  rfl

/-- A version that is no range. -/
structure ExactVersion where
  text : String
  not_isRange : ¬ IsRange text
  readable : Readable text.toList

/-- **Exact requirements are an equivalence, and one case of the order of ranges.** Between versions
that are no ranges the answer is always given, and to be met is reflexive, symmetric and transitive.
Texts of digit groups are met by those whose numbers are equal up to zeros at the end; so if each group
has the same digits up to zeros in front, then whatever the separators and the blanks around, they meet
each other and have the same answers with every version that is no range. They are not met by texts of
another kind, nor meet these. They are met where the range from them to them is, and a text of digit
groups meets just one of them, all that is behind them, and all that is before them. -/
theorem exact_is_equivalence :
    (∀ a p : ExactVersion, ∃ b, meets a.text p.text = .ok b) ∧
    (Equivalence fun a p : ExactVersion => meets a.text p.text = .ok true) ∧
    (∀ a p gs gs', Readable a.toList → Readable p.toList → Grouped gs (Text.strip a.toList) →
      Grouped gs' (Text.strip p.toList) →
      (meets a p = .ok true ↔
        ∀ i, (gs.map Text.digitsValue).getD i 0 = (gs'.map Text.digitsValue).getD i 0) ∧
      (List.Forall₂ SameDigits gs gs' → meets a p = .ok true ∧
        ∀ q : ExactVersion, meets a q.text = meets p q.text ∧ meets q.text a = meets q.text p)) ∧
    (∀ a p : ExactVersion, IsNumbered a.text → ¬ IsNumbered p.text →
      meets a.text p.text = .ok false ∧ meets p.text a.text = .ok false) ∧
    (∀ a p, IsNumbered a → IsNumbered p → Readable a.toList → Readable p.toList →
      ∃ equal above below, meets a p = .ok equal ∧
        meets ("[" ++ a ++ "," ++ a ++ "]") p = .ok equal ∧
        meets ("(" ++ a ++ ",)") p = .ok above ∧ meets ("(," ++ a ++ ")") p = .ok below ∧
        [equal, above, below].count true = 1) := by
  have hmeets (a p : ExactVersion) : ∃ b, meets a.text p.text = .ok b ∧
      (b = true ↔ Alike a.text p.text) := meets_exact a.not_isRange a.readable p.readable
  have htrue (a p : ExactVersion) : meets a.text p.text = .ok true ↔ Alike a.text p.text :=
    meets_exact_iff a.not_isRange a.readable p.readable
  refine ⟨fun a p => (hmeets a p).imp fun b => And.left, ⟨?_, ?_, ?_⟩, ?_, ?_, ?_⟩
  · exact fun a => (htrue a a).mpr (alike_refl a.text)
  · intro a p h
    exact (htrue p a).mpr ((htrue a p).mp h).symm
  · intro a p q h h'
    exact (htrue a q).mpr (((htrue a p).mp h).trans ((htrue p q).mp h'))
  · intro a p gs gs' hreadA hreadP hgs hgs'
    have ha : IsNumbered a := ⟨gs, hgs⟩
    have hp : IsNumbered p := ⟨gs', hgs'⟩
    have hiff : meets a p = .ok true ↔ Alike a p := meets_exact_iff ha.not_isRange hreadA hreadP
    rw [hiff]
    -- Two numbered versions are alike if their groups have the same numbers.
    have hrank : Alike a p ↔
        padded (gs.map Text.digitsValue) = padded (gs'.map Text.digitsValue) := by
      rw [alike_iff_rank ha hp, rank_of_grouped hgs, rank_of_grouped hgs']
    refine ⟨hrank.trans funext_iff, fun hsame => ?_⟩
    have halike : Alike a p := hrank.mpr (congrArg padded (map_digitsValue_eq hsame))
    exact ⟨halike, fun q => meets_alike halike ha.not_isRange hp.not_isRange q.not_isRange hreadA
      hreadP q.readable⟩
  · intro a p ha hp
    have hnot : ¬ Alike a.text p.text := not_alike ha hp
    exact ⟨meets_not_alike hnot a.not_isRange a.readable p.readable,
      meets_not_alike (fun h => hnot h.symm) p.not_isRange p.readable a.readable⟩
  · exact fun a p => meets_trichotomy

/-- Zeros in front and at the end, separators and blanks do not tell two versions apart; a word behind
the numbers does. -/
theorem exact_is_equivalence_zeros :
    meets "01_8" " 1.08-0\n" = .ok true ∧ meets "01_8" "1.8-ea" = .ok false := by
  have hleft : Text.strip "01_8".toList = ['0', '1'] ++ '_' :: ['8'] := by decide +kernel
  have hright : Text.strip " 1.08-0\n".toList = ['1'] ++ '.' :: (['0', '8'] ++ '-' :: ['0']) := by
    decide +kernel
  -- Zeros in front and groups of zeros at the end do not count.
  have hgroups : Grouped [['0', '1'], ['8']] (Text.strip "01_8".toList) := by
    rw [hleft]
    exact .cons (by decide +kernel) (by decide) (.last (by decide +kernel))
  have hgroups' : Grouped [['1'], ['0', '8'], ['0']] (Text.strip " 1.08-0\n".toList) := by
    rw [hright]
    exact .cons (by decide +kernel) (by decide)
      (.cons (by decide +kernel) (by decide) (.last (by decide +kernel)))
  have hread : Readable "01_8".toList := readable_of_length_le (by decide)
  have hword : Text.strip "1.8-ea".toList = '1' :: ".8-ea".toList := by decide +kernel
  obtain ⟨-, -, hequal, hother, -⟩ := exact_is_equivalence
  constructor
  · refine (hequal _ _ _ _ hread (readable_of_length_le (by decide)) hgroups hgroups').1.mpr ?_
    rintro (_ | _ | _ | i) <;> rfl
  · refine (hother ⟨"01_8", IsNumbered.not_isRange ⟨_, hgroups⟩, hread⟩
      ⟨"1.8-ea", not_isRange_of_head hword (by decide), readable_of_length_le (by decide)⟩
      ⟨_, hgroups⟩ ?_).1
    have hscan : ¬ isNumeric (Text.strip "1.8-ea".toList) = true := by decide +kernel
    rwa [isNumeric_iff] at hscan

end Downlevel.Version
