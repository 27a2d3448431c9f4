import Downlevel.Proofs.Text.Encoding
/-!
# Bytes that are read back

Where the bytes of a character stand at the head of bytes, it is read off them. So where every fault is
replaced, the bytes of a text are read as the text whatever follows, and bytes that begin with a
character of one byte are read apart from what stands before them.
-/
namespace Downlevel.Text

/-! ## Code points and their bytes -/

theorem eq_toUInt8_iff {n : Nat} (h : n < 0x100) {b : UInt8} : b = n.toUInt8 ↔ b.toNat = n := by
  have hn : n.toUInt8.toNat = n := Nat.mod_eq_of_lt h
  rw [← UInt8.toNat_inj, hn]

section Bytes

variable {n : Nat} {b b₁ b₂ b₃ : UInt8}

/-- A small number is one byte. -/
theorem encodePoint_eq_one (h : n < 0x80) (hb : b.toNat = n) : encodePoint n = [b] := by
  rw [encodePoint, if_pos h, (eq_toUInt8_iff (by omega)).mpr hb]

theorem encodePoint_ne_nil (n : Nat) : encodePoint n ≠ [] := by
  unfold encodePoint
  split
  · exact List.cons_ne_nil _ _
  · split
    · exact List.cons_ne_nil _ _
    · split <;> exact List.cons_ne_nil _ _

end Bytes

/-! ## One character -/

/-- What may follow a lead byte: as many bytes as it asks for, the first of them within narrower bounds
after some. -/
theorem continuationRanges?_eq_some {b : UInt8} {ranges : List (Nat × Nat)} :
    continuationRanges? b = some ranges ↔
      (b.toNat < 0x80 ∧ ranges = []) ∨
      (0xc2 ≤ b.toNat ∧ b.toNat < 0xe0 ∧ ranges = [(0x80, 0xbf)]) ∨
      (0xe0 ≤ b.toNat ∧ b.toNat < 0xf0 ∧ ranges =
        [(if b.toNat = 0xe0 then 0xa0 else 0x80, if b.toNat = 0xed then 0x9f else 0xbf),
          (0x80, 0xbf)]) ∨
      (0xf0 ≤ b.toNat ∧ b.toNat ≤ 0xf4 ∧ ranges =
        [(if b.toNat = 0xf0 then 0x90 else 0x80, if b.toNat = 0xf4 then 0x8f else 0xbf),
          (0x80, 0xbf), (0x80, 0xbf)]) := by
  unfold continuationRanges?
  generalize b.toNat = n
  dsimp only
  grind

/-- No continuation byte is a character of one byte. -/
theorem le_of_continuationRanges? {b : UInt8} {ranges : List (Nat × Nat)}
    (h : continuationRanges? b = some ranges) : ∀ r ∈ ranges, 0x80 ≤ r.1 := by
  have hcases := continuationRanges?_eq_some.mp h
  grind

theorem readTails_nil_eq_ok {acc v : Nat} {bytes : List UInt8} :
    readTails acc [] bytes = .ok v ↔ v = acc := by
  simp [readTails, eq_comm]

/-- A further byte is taken if it is within its bounds. -/
theorem readTails_cons_eq_ok {acc v lo hi : Nat} {ranges : List (Nat × Nat)} {bytes : List UInt8} :
    readTails acc ((lo, hi) :: ranges) bytes = .ok v ↔ ∃ b rest, bytes = b :: rest ∧
      lo ≤ b.toNat ∧ b.toNat ≤ hi ∧ readTails (acc * 0x40 + b.toNat % 0x40) ranges rest = .ok v := by
  cases bytes with
  | nil => simp [readTails]
  | cons b rest =>
    -- The byte and the rest are determined.
    have hsplit : (∃ b' rest', b :: rest = b' :: rest' ∧ lo ≤ b'.toNat ∧ b'.toNat ≤ hi ∧
        readTails (acc * 0x40 + b'.toNat % 0x40) ranges rest' = .ok v) ↔
        (lo ≤ b.toNat ∧ b.toNat ≤ hi) ∧
          readTails (acc * 0x40 + b.toNat % 0x40) ranges rest = .ok v := by
      constructor
      · rintro ⟨_, _, heq, hlo, hhi, hv⟩
        cases heq
        exact ⟨⟨hlo, hhi⟩, hv⟩
      · rintro ⟨⟨hlo, hhi⟩, hv⟩
        exact ⟨b, rest, rfl, hlo, hhi, hv⟩
    rw [hsplit, readTails]
    split
    · rename_i hb
      simp only [Bool.and_eq_true, decide_eq_true_eq] at hb
      rw [and_iff_right hb]
      cases readTails (acc * 0x40 + b.toNat % 0x40) ranges rest with
      | error e => exact ⟨nofun, nofun⟩
      | ok n => exact Iff.rfl
    · rename_i hb
      simp only [Bool.and_eq_true, decide_eq_true_eq] at hb
      exact ⟨nofun, fun h => absurd h.1 hb⟩

/-- What a first byte and its further bytes are read as. -/
theorem readChar_eq_ok {b : UInt8} {rest : List UInt8} {c : Char} {k : Nat} :
    readChar b rest = .ok (c, k) ↔ ∃ ranges n, continuationRanges? b = some ranges ∧
      readTails (leadBits b.toNat ranges.length) ranges rest = .ok n ∧ c = Char.ofNat n ∧
      k = ranges.length + 1 := by
  unfold readChar
  cases continuationRanges? b with
  | none => simp
  | some ranges =>
    cases hn : readTails (leadBits b.toNat ranges.length) ranges rest with
    | error e => simp [hn]
    | ok n => simp [hn, eq_comm]

/-- Where the bytes of a character stand, it is read, whatever follows. -/
theorem readChar_encodePoint {c : Char} {b : UInt8} {tail : List UInt8}
    (h : encodePoint c.toNat = b :: tail) (rest : List UInt8) :
    readChar b (tail ++ rest) = .ok (c, tail.length + 1) := by
  have hscalar : c.toNat < 0xd800 ∨ 0xdfff < c.toNat ∧ c.toNat < 0x110000 := c.valid
  have hc : c = Char.ofNat c.toNat := (Char.ofNat_toNat c).symm
  have hbyte {n : Nat} (h : n < 0x100) : n.toUInt8.toNat = n := (eq_toUInt8_iff h).mp rfl
  rw [readChar_eq_ok]
  generalize c.toNat = n at h hscalar hc
  -- The cases are the numbers of bytes that a character takes.
  by_cases hone : n < 0x80
  · rw [encodePoint, if_pos hone] at h
    cases h
    have hb := hbyte (n := n) (by omega)
    refine ⟨[], n, continuationRanges?_eq_some.mpr (Or.inl ⟨by omega, rfl⟩), ?_, hc, rfl⟩
    simp only [readTails_nil_eq_ok, leadBits, List.length_nil]
    omega
  by_cases htwo : n < 0x800
  · rw [encodePoint, if_neg hone, if_pos htwo] at h
    cases h
    have hb := hbyte (n := 0xc0 + n / 0x40) (by omega)
    have hb₁ := hbyte (n := 0x80 + n % 0x40) (by omega)
    refine ⟨_, n, continuationRanges?_eq_some.mpr (Or.inr (Or.inl ⟨by omega, by omega, rfl⟩)), ?_, hc,
      rfl⟩
    simp only [readTails_cons_eq_ok, readTails_nil_eq_ok, leadBits, List.length_cons, List.length_nil]
    exact ⟨_, _, rfl, by omega, by omega, by omega⟩
  by_cases hthree : n < 0x10000
  · rw [encodePoint, if_neg hone, if_neg htwo, if_pos hthree] at h
    cases h
    have hb := hbyte (n := 0xe0 + n / 0x1000) (by omega)
    have hb₁ := hbyte (n := 0x80 + n / 0x40 % 0x40) (by omega)
    have hb₂ := hbyte (n := 0x80 + n % 0x40) (by omega)
    refine ⟨_, n, continuationRanges?_eq_some.mpr
      (Or.inr (Or.inr (Or.inl ⟨by omega, by omega, rfl⟩))), ?_, hc, rfl⟩
    simp only [readTails_cons_eq_ok, readTails_nil_eq_ok, leadBits, List.length_cons, List.length_nil]
    refine ⟨_, _, rfl, ?_, ?_, _, _, rfl, by omega, by omega, by omega⟩
    · split <;> omega
    · split <;> omega
  · rw [encodePoint, if_neg hone, if_neg htwo, if_neg hthree] at h
    cases h
    have hb := hbyte (n := 0xf0 + n / 0x40000) (by omega)
    have hb₁ := hbyte (n := 0x80 + n / 0x1000 % 0x40) (by omega)
    have hb₂ := hbyte (n := 0x80 + n / 0x40 % 0x40) (by omega)
    have hb₃ := hbyte (n := 0x80 + n % 0x40) (by omega)
    refine ⟨_, n, continuationRanges?_eq_some.mpr
      (Or.inr (Or.inr (Or.inr ⟨by omega, by omega, rfl⟩))), ?_, hc, rfl⟩
    simp only [readTails_cons_eq_ok, readTails_nil_eq_ok, leadBits, List.length_cons, List.length_nil]
    refine ⟨_, _, rfl, ?_, ?_, _, _, rfl, by omega, by omega, _, _, rfl, by omega, by omega, by omega⟩
    · split <;> omega
    · split <;> omega

/-! ## Faults that are replaced -/

/-- The character at the head of bytes, or what stands for a fault there, and how many bytes it
takes. -/
def headChar (b : UInt8) (rest : List UInt8) : Char × Nat :=
  match readChar b rest with
  | .error (_, k) => (Char.ofNat 0xfffd, k)
  | .ok r => r

/-- Decoding goes on behind the first character. -/
theorem decodeLossy_cons (b : UInt8) (rest : List UInt8) :
    decodeLossy (b :: rest)
      = (headChar b rest).1 :: decodeLossy (rest.drop ((headChar b rest).2 - 1)) := by
  rw [decodeLossy, headChar]
  rcases readChar b rest with ⟨kind, k⟩ | ⟨c, k⟩ <;> rfl

/-- A character that was encoded is decoded, and what follows it as well. -/
theorem decodeLossy_encodePoint (c : Char) (rest : List UInt8) :
    decodeLossy (encodePoint c.toNat ++ rest) = c :: decodeLossy rest := by
  obtain ⟨b, tail, hbytes⟩ := List.exists_cons_of_ne_nil (encodePoint_ne_nil c.toNat)
  rw [hbytes, List.cons_append, decodeLossy_cons, headChar, readChar_encodePoint hbytes,
    Nat.add_sub_cancel, List.drop_left]

/-- The bytes of a text are read as the text, whatever follows. -/
theorem decodeLossy_utf8_append (s : String) (rest : List UInt8) :
    decodeLossy (utf8 s ++ rest) = s.toList ++ decodeLossy rest := by
  unfold utf8
  induction s.toList with
  | nil => rfl
  | cons c cs ih =>
    rw [List.flatMap_cons, List.append_assoc, decodeLossy_encodePoint, ih, List.cons_append]

variable {a : UInt8}

/-- A byte that continues nothing ends the reading of continuation bytes as the end of the bytes
does. -/
theorem readTails_append (ha : a.toNat < 0x80) {ranges : List (Nat × Nat)}
    (hranges : ∀ r ∈ ranges, 0x80 ≤ r.1) (acc : Nat) (bytes rest : List UInt8) :
    (∃ n, readTails acc ranges bytes = .ok n ∧ readTails acc ranges (bytes ++ a :: rest) = .ok n ∧
      ranges.length ≤ bytes.length) ∨
    (∃ kind kind' k, readTails acc ranges bytes = .error (kind, k) ∧
      readTails acc ranges (bytes ++ a :: rest) = .error (kind', k) ∧ k ≤ bytes.length) := by
  induction ranges generalizing acc bytes with
  | nil => exact Or.inl ⟨acc, by simp [readTails]⟩
  | cons r ranges ih =>
    obtain ⟨lo, hi⟩ := r
    have hlo : 0x80 ≤ lo := hranges _ List.mem_cons_self
    -- A plain byte is in no range of further bytes, so it ends the character as the end does.
    cases bytes with
    | nil =>
      right
      refine ⟨.endOfData, .continuationByte, 0, rfl, ?_, Nat.le_refl 0⟩
      have hout : (lo ≤ a.toNat && a.toNat ≤ hi) = false := by
        rw [Bool.and_eq_false_iff]
        exact Or.inl (decide_eq_false (by omega))
      rw [List.nil_append, readTails, hout]
      rfl
    | cons b bytes =>
      rw [List.cons_append, readTails, readTails]
      split
      · -- One byte more fits; what becomes of the others is known.
        rcases ih (fun r hr => hranges r (List.mem_cons_of_mem _ hr))
          (acc * 0x40 + b.toNat % 0x40) bytes with ⟨n, h, h', hlength⟩ | ⟨kind, kind', k, h, h', hk⟩
        · left
          refine ⟨n, by rw [h], by rw [h'], ?_⟩
          simpa using hlength
        · right
          refine ⟨kind, kind', k + 1, by rw [h], by rw [h'], ?_⟩
          simpa using hk
      · exact Or.inr ⟨.continuationByte, .continuationByte, 0, rfl, rfl, Nat.zero_le _⟩

/-- Bytes behind a plain one have no part in the first character. -/
theorem headChar_append (ha : a.toNat < 0x80) (b : UInt8) (bytes rest : List UInt8) :
    headChar b (bytes ++ a :: rest) = headChar b bytes ∧ (headChar b bytes).2 - 1 ≤ bytes.length := by
  unfold headChar readChar
  cases hranges : continuationRanges? b with
  | none => exact ⟨rfl, Nat.zero_le _⟩
  | some ranges =>
    rcases readTails_append ha (le_of_continuationRanges? hranges) (leadBits b.toNat ranges.length)
      bytes rest with ⟨n, h, h', hlength⟩ | ⟨kind, kind', k, h, h', hk⟩
    · simp [h, h', hlength]
    · simp [h, h', hk]

/-- Bytes that begin with a character of one byte are read apart from what stands before them. -/
theorem decodeLossy_append (ha : a.toNat < 0x80) (bytes rest : List UInt8) :
    decodeLossy (bytes ++ a :: rest) = decodeLossy bytes ++ decodeLossy (a :: rest) := by
  -- The induction is on the length, as a character takes several bytes at a time.
  induction hn : bytes.length using Nat.strongRecOn generalizing bytes with
  | _ n ih =>
    cases bytes with
    | nil =>
      rw [decodeLossy]
      rfl
    | cons b bytes =>
      obtain ⟨hhead, hlength⟩ := headChar_append ha b bytes rest
      have hshorter : (bytes.drop ((headChar b bytes).2 - 1)).length < n := by
        rw [List.length_drop, ← hn, List.length_cons]
        omega
      rw [List.cons_append, decodeLossy_cons, decodeLossy_cons, hhead,
        List.drop_append_of_le_length hlength, ih _ hshorter _ rfl, List.cons_append]

end Downlevel.Text
