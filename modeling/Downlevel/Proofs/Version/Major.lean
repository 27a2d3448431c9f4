import Downlevel.Proofs.Text.Stripping
import Downlevel.Proofs.Version.Readable
/-!
# Major versions

The two ways to write a Java release: `1.8.0_292` has the release after a one, `11.0.2` has it in
front. Whatever follows the release, it is read back, as long as the digits end where it ends. Only a
first release could not be told from the older way to write, where a point and a digit follow it.
-/
namespace Downlevel

/-! ## Numerals that are written out -/

namespace Text

/-- A text does not start with a digit. -/
def NoDigitFirst (cs : List Char) : Prop :=
  ∀ c ∈ cs.head?, isDigit c = false

instance (cs : List Char) : Decidable (NoDigitFirst cs) :=
  decidable_of_iff ((cs.head?.all fun c => !isDigit c) = true) all_not_iff

/-- A point and a digit stand at the start of a text. -/
def PointDigitFirst (cs : List Char) : Prop :=
  ∃ d rest, cs = '.' :: d :: rest ∧ isDigit d = true

/-- The ten digits of ASCII have the values that their order gives. -/
theorem digitValue?_of_isDigit {c : Char} (h : c.isDigit = true) :
    digitValue? c = some (c.toNat - '0'.toNat) := by
  have hascii : c.val < 0x80 := by
    simp only [Char.isDigit, Bool.and_eq_true, decide_eq_true_eq] at h
    exact Nat.lt_of_le_of_lt h.2 (by decide)
  rw [digitValue?, if_pos hascii, if_pos h]
  rfl

/-- The digits of a number are digits. -/
theorem isDigit_of_mem_toDigits {n : Nat} {c : Char} (h : c ∈ Nat.toDigits 10 n) :
    isDigit c = true := by
  rw [isDigit, digitValue?_of_isDigit (Nat.isDigit_of_mem_toDigits (by omega) (by omega) h)]
  rfl

theorem all_isDigit_toDigits (n : Nat) : (Nat.toDigits 10 n).all isDigit = true :=
  List.all_eq_true.mpr fun _ => isDigit_of_mem_toDigits

/-- A number that is written out is read back. -/
theorem digitsValue_toDigits (n : Nat) : digitsValue (Nat.toDigits 10 n) = n := by
  have hfold : ∀ (cs : List Char) (start : Nat), (∀ c ∈ cs, c.isDigit = true) →
      cs.foldl (fun n c => 10 * n + (digitValue? c).getD 0) start
        = Nat.ofDigitChars 10 cs start := by
    intro cs
    induction cs with
    | nil => exact fun _ _ => rfl
    | cons c cs ih =>
      intro start hdigits
      rw [List.foldl_cons, digitValue?_of_isDigit (hdigits c List.mem_cons_self), Option.getD_some,
        ih _ fun d hd => hdigits d (List.mem_cons_of_mem _ hd), Nat.ofDigitChars_cons]
  rw [digitsValue, hfold _ _ fun c hc => Nat.isDigit_of_mem_toDigits (by omega) (by omega) hc]
  exact Nat.ofDigitChars_toDigits (by omega) (by omega)

/-! ## What stripping leaves of a text with digits in front -/

/-- A digit is no blank. -/
theorem isBlank_of_isDigit {c : Char} (h : isDigit c = true) : isBlank c = false := by
  cases hblank : isBlank c with
  | false => rfl
  | true => exact absurd h (by rw [isDigit_of_isBlank hblank]; exact Bool.false_ne_true)

/-- Stripping goes no further than to characters that are no blanks. -/
theorem strip_append {before solid : List Char} (hb : before.all isBlank) (hs : Bare solid)
    (hne : solid ≠ []) (rest : List Char) :
    strip (before ++ solid ++ rest) = solid ++ stripRight rest := by
  have hleft : stripLeft (solid ++ rest) = solid ++ rest := by
    apply stripLeft_of_head
    cases solid with
    | nil => exact absurd rfl hne
    | cons c solid => exact hs.head
  rw [List.append_assoc, strip, stripLeft_append hb, hleft, stripRight, List.reverse_append,
    List.dropWhile_append]
  split
  · -- Only blanks follow, and they vanish.
    rename_i hnone
    have hright := stripRight_of_last hs.last
    unfold stripRight at hright ⊢
    rw [hright, List.isEmpty_iff.mp hnone, List.reverse_nil, List.append_nil]
  · rw [List.reverse_append, List.reverse_reverse, stripRight]

/-- What is left of a text after digits starts with a digit no more than the text did. -/
theorem NoDigitFirst.stripRight {cs : List Char} (h : NoDigitFirst cs) :
    NoDigitFirst (stripRight cs) := by
  obtain ⟨after, hafter⟩ := isPrefix_stripRight cs
  intro c hc
  apply h c
  rw [← hafter, List.head?_append, Option.mem_def.mp hc]
  rfl

/-- Stripping the end does not change what comes first. -/
theorem pointDigitFirst_of_stripRight {cs : List Char} (h : PointDigitFirst (stripRight cs)) :
    PointDigitFirst cs := by
  obtain ⟨d, rest, hcs, hd⟩ := h
  obtain ⟨after, hafter⟩ := isPrefix_stripRight cs
  rw [hcs] at hafter
  exact ⟨d, rest ++ after, hafter.symm, hd⟩

/-- Digits are no blanks, and so is nothing that digits are at both ends of. -/
theorem bare_of_isDigit {cs : List Char} (hhead : ∀ c ∈ cs.head?, isDigit c = true)
    (hlast : ∀ c ∈ cs.getLast?, isDigit c = true) : Bare cs :=
  ⟨fun c hc => isBlank_of_isDigit (hhead c hc), fun c hc => isBlank_of_isDigit (hlast c hc)⟩

/-- A run of digits ends where what follows starts with none. -/
theorem takeWhile_isDigit_append {ds rest : List Char} (hd : ds.all isDigit)
    (hr : NoDigitFirst rest) : (ds ++ rest).takeWhile isDigit = ds := by
  have hrest : rest.takeWhile isDigit = [] := by
    cases rest with
    | nil => rfl
    | cons c rest => exact List.takeWhile_cons_of_neg (by rw [hr c rfl]; exact Bool.false_ne_true)
  rw [List.takeWhile_append_of_pos (List.all_eq_true.mp hd), hrest, List.append_nil]

end Text

namespace Version

/-! ## Reading a release -/

/-- The digits after a point at the start of a text. -/
def afterPoint : List Char → List Char
  | '.' :: rest => rest.takeWhile Text.isDigit
  | _ => []

/-- Both numbers of a version are read off what stripping leaves: the first is its digits in front,
and the second the digits after a point behind them. -/
theorem major?_of_strip {version : String} {ds rest : List Char}
    (hstrip : Text.strip version.toList = ds ++ rest) (hne : ds ≠ []) (hd : ds.all Text.isDigit)
    (hlimit : ds.length ≤ Numeral.digitLimit) (hr : Text.NoDigitFirst rest) :
    major? version
      = if Text.digitsValue ds = 1 ∧ afterPoint rest ≠ [] then
          (Numeral.ofDigits (afterPoint rest)).map some
        else .ok (some (Text.digitsValue ds)) := by
  have hfirst : (ds ++ rest).takeWhile Text.isDigit = ds := Text.takeWhile_isDigit_append hd hr
  have hsome : ds.isEmpty = false := by
    cases ds with
    | nil => exact absurd rfl hne
    | cons d ds => rfl
  unfold major?
  dsimp only
  rw [hstrip, hfirst, hsome, if_neg Bool.false_ne_true,
    Numeral.ofDigits_of_length_le hlimit, List.drop_left]
  -- Only behind a one is the number after the point the major one.
  by_cases hlegacy : Text.digitsValue ds = 1 ∧ afterPoint rest ≠ []
  · refine (if_pos hlegacy).trans ?_
    rw [if_pos hlegacy]
    split
    · rename_i e hsecond
      rw [show Numeral.ofDigits (afterPoint rest) = .error e from hsecond]
      rfl
    · rename_i m hsecond
      rw [show Numeral.ofDigits (afterPoint rest) = .ok m from hsecond]
      rfl
  · rw [if_neg hlegacy]
    exact if_neg hlegacy

/-- A version that starts with no digit has no release. -/
theorem major?_of_noDigitFirst {version : String}
    (h : Text.NoDigitFirst (Text.strip version.toList)) : major? version = .ok none := by
  have hfirst : ([] ++ Text.strip version.toList).takeWhile Text.isDigit = [] :=
    Text.takeWhile_isDigit_append rfl h
  rw [List.nil_append] at hfirst
  unfold major?
  dsimp only
  rw [hfirst]
  rfl

variable {before rest : String} {n : Nat}

/-- A release in front is read, unless it is the first one and looks like the start of the older way
to write. -/
theorem major?_current (hb : before.toList.all Text.isBlank)
    (hn : (Nat.toDigits 10 n).length ≤ Numeral.digitLimit) (hr : Text.NoDigitFirst rest.toList)
    (hplain : ¬ (n = 1 ∧ Text.PointDigitFirst rest.toList)) :
    major? (before ++ toString n ++ rest) = .ok (some n) := by
  have hdigits := Text.all_isDigit_toDigits n
  have hbare : Text.Bare (Nat.toDigits 10 n) := Text.bare_of_isDigit
    (fun c hc => List.all_eq_true.mp hdigits c (List.mem_of_head? hc))
    (fun c hc => List.all_eq_true.mp hdigits c (List.mem_of_getLast? hc))
  have hstrip : Text.strip (before ++ toString n ++ rest).toList
      = Nat.toDigits 10 n ++ Text.stripRight rest.toList := by
    rw [String.toList_append, String.toList_append, Nat.toString_eq_ofList_toDigits,
      String.toList_ofList]
    exact Text.strip_append hb hbare Nat.toDigits_ne_nil _
  rw [major?_of_strip hstrip Nat.toDigits_ne_nil hdigits hn hr.stripRight,
    Text.digitsValue_toDigits, if_neg]
  rintro ⟨hone, hpoint⟩
  refine hplain ⟨hone, Text.pointDigitFirst_of_stripRight ?_⟩
  -- Digits after a point mean a point, and a digit after it.
  unfold afterPoint at hpoint
  split at hpoint
  · rename_i more hmore
    cases more with
    | nil => exact absurd rfl hpoint
    | cons d more =>
      cases hd : Text.isDigit d with
      | true => exact ⟨d, more, hmore, hd⟩
      | false =>
        exact absurd (List.takeWhile_cons_of_neg (by rw [hd]; exact Bool.false_ne_true)) hpoint
  · exact absurd rfl hpoint

/-- A release after a one and a point is read. -/
theorem major?_legacy (hb : before.toList.all Text.isBlank)
    (hn : (Nat.toDigits 10 n).length ≤ Numeral.digitLimit) (hr : Text.NoDigitFirst rest.toList) :
    major? (before ++ "1." ++ toString n ++ rest) = .ok (some n) := by
  have hdigits := Text.all_isDigit_toDigits n
  have hone : Text.isDigit '1' = true := by decide +kernel
  have hpoint : Text.isDigit '.' = false := by decide +kernel
  have hbare : Text.Bare ('1' :: '.' :: Nat.toDigits 10 n) := by
    refine Text.bare_of_isDigit ?_ ?_
    · rintro c ⟨⟩
      exact hone
    · intro c hc
      rw [List.getLast?_cons_cons, List.getLast?_cons_of_ne_nil Nat.toDigits_ne_nil] at hc
      exact List.all_eq_true.mp hdigits c (List.mem_of_getLast? hc)
  have hstrip : Text.strip (before ++ "1." ++ toString n ++ rest).toList
      = ['1'] ++ ('.' :: (Nat.toDigits 10 n ++ Text.stripRight rest.toList)) := by
    have hsolid := Text.strip_append hb hbare (List.cons_ne_nil _ _) rest.toList
    rw [String.toList_append, String.toList_append, String.toList_append,
      Nat.toString_eq_ofList_toDigits, String.toList_ofList, String.toList_ofList,
      List.append_assoc before.toList]
    exact hsolid
  have hsecond : afterPoint ('.' :: (Nat.toDigits 10 n ++ Text.stripRight rest.toList))
      = Nat.toDigits 10 n := Text.takeWhile_isDigit_append hdigits hr.stripRight
  have hvalue : Text.digitsValue ['1'] = 1 := Text.digitsValue_toDigits 1
  -- The point ends the digits in front of it.
  have hpointFirst : Text.NoDigitFirst ('.' :: (Nat.toDigits 10 n ++ Text.stripRight rest.toList)) := by
    rintro c ⟨⟩
    exact hpoint
  rw [major?_of_strip hstrip (List.cons_ne_nil _ _) (by rw [List.all_cons, hone]; rfl) (by decide)
    hpointFirst, hsecond, hvalue, if_pos ⟨rfl, Nat.toDigits_ne_nil⟩, Numeral.ofDigits,
    if_neg (Nat.not_lt.mpr hn), Text.digitsValue_toDigits]
  rfl

end Version

end Downlevel
