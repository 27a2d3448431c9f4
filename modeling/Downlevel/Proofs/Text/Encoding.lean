import Downlevel.Proofs.Text.Joining
import Downlevel.Text.Quoted
/-!
# Texts in bytes

A text has a form in bytes exactly if none of its code points is a surrogate, and then each code point
has its own bytes, which are those of the library for characters.
-/
namespace Downlevel.Text

/-! ## Code points -/

/-- The bytes of a character are those that the library gives it. -/
theorem encodePoint_toNat (c : Char) : encodePoint c.toNat = String.utf8EncodeChar c := by
  have hbound : c.toNat < 0x110000 := by
    rcases c.valid with h | h
    · have : c.toNat < 0xd800 := h
      omega
    · exact h.2
  have hval : c.val.toNat = c.toNat := rfl
  unfold encodePoint String.utf8EncodeChar
  rw [hval]
  generalize c.toNat = n at hbound
  -- Both encodings distinguish the same four ranges, and add up their bytes in another order.
  by_cases hone : n < 0x80
  · rw [if_pos hone, if_pos (show n ≤ 127 by omega)]
  rw [if_neg hone, if_neg (show ¬ n ≤ 127 by omega)]
  by_cases htwo : n < 0x800
  · have hfirst : 0xc0 + n / 0x40 = n / 64 % 32 + 192 := by omega
    rw [if_pos htwo, if_pos (show n ≤ 2047 by omega), hfirst, Nat.add_comm 0x80]
  rw [if_neg htwo, if_neg (show ¬ n ≤ 2047 by omega)]
  by_cases hthree : n < 0x10000
  · have hfirst : 0xe0 + n / 0x1000 = n / 4096 % 16 + 224 := by omega
    rw [if_pos hthree, if_pos (show n ≤ 65535 by omega), hfirst, Nat.add_comm 0x80,
      Nat.add_comm 0x80]
  have hfirst : 0xf0 + n / 0x40000 = n / 262144 % 8 + 240 := by omega
  rw [if_neg hthree, if_neg (show ¬ n ≤ 65535 by omega), hfirst, Nat.add_comm 0x80,
    Nat.add_comm 0x80, Nat.add_comm 0x80]

/-- The bytes of a string are those that the library gives it. -/
theorem utf8_eq_toUTF8 (s : String) : utf8 s = s.toUTF8.data.toList := by
  have hbytes : s.toUTF8 = (s.toList.flatMap String.utf8EncodeChar).toByteArray :=
    String.utf8Encode_toList.symm
  rw [hbytes, List.toList_data_toByteArray, utf8]
  exact congrArg (List.flatMap · s.toList) (funext encodePoint_toNat)

/-- Texts are encoded one behind the other. -/
theorem utf8_append (s s' : String) : utf8 (s ++ s') = utf8 s ++ utf8 s' := by
  rw [utf8, String.toList_append, List.flatMap_append]
  rfl

/-- A string is printed as it is. -/
theorem printed_codePoints (s : String) : printed (codePoints s) = s := by
  have hone : ∀ c : Char, (if isSurrogate c.toNat then codeEscape c.toNat else [Char.ofNat c.toNat])
      = [c] := by
    intro c
    rw [if_neg (by rw [not_isSurrogate_toNat]; exact Bool.false_ne_true), Char.ofNat_toNat]
  rw [printed, codePoints, List.flatMap_map]
  simp only [hone, List.flatMap_singleton', String.ofList_toList]

/-- Joined texts are joined bytes. -/
theorem flatMap_intercalate {α β : Type} (f : α → List β) (sep : List α) (xs : List (List α)) :
    (sep.intercalate xs).flatMap f = (sep.flatMap f).intercalate (xs.map (List.flatMap f)) := by
  induction xs with
  | nil => rfl
  | cons x xs ih =>
    cases xs with
    | nil => simp
    | cons y ys =>
      rw [List.intercalate_cons_cons, List.flatMap_append, List.flatMap_append, ih]
      rw [List.map_cons, List.map_cons, List.map_cons, List.intercalate_cons_cons]

/-! ## Surrogates -/

/-- There is no run of surrogates if and only if there is no surrogate. -/
theorem surrogateRun?_eq_none_iff {points : CodePoints} (position : Nat) :
    surrogateRun? position points = none ↔ ∀ n ∈ points, isSurrogate n = false := by
  induction points generalizing position with
  | nil => simp [surrogateRun?]
  | cons n points ih =>
    rw [surrogateRun?, List.forall_mem_cons]
    cases hn : isSurrogate n
    · simpa using ih (position + 1)
    · simp

/-- A text with a surrogate anywhere has no form in bytes, and every other one has its code points one
after the other. -/
theorem encodeUtf8_eq_ok_iff {points : CodePoints} {bytes : List UInt8} :
    encodeUtf8 points = .ok bytes ↔
      (∀ n ∈ points, isSurrogate n = false) ∧ bytes = points.flatMap encodePoint := by
  unfold encodeUtf8
  rw [← surrogateRun?_eq_none_iff 0]
  cases surrogateRun? 0 points with
  | none => simp [eq_comm]
  | some run => simp

end Downlevel.Text
