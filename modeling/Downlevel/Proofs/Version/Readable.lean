import Mathlib.Data.List.Infix
import Downlevel.Proofs.Text.Joining
import Downlevel.Version
/-!
# Versions that can be read

Versions are compared by numbers, and a number is read from a run of digits up to a limit on its
length. In a readable text no run is longer. Every part of a readable text is readable, so whatever
the comparison of readable texts cuts out of them is read, and the comparison has an answer.
-/
namespace Downlevel

namespace Text

/-! ## Parts of texts -/

/-- What is stripped at the end is a beginning. -/
theorem isPrefix_stripRight (cs : List Char) : stripRight cs <+: cs := by
  rw [stripRight, ← List.reverse_suffix, List.reverse_reverse]
  exact List.dropWhile_suffix _

theorem strip_infix (cs : List Char) : strip cs <:+: cs :=
  (isPrefix_stripRight _).isInfix.trans (List.dropWhile_suffix _).isInfix

end Text

/-- A run of digits within the limit is read. -/
theorem Numeral.ofDigits_of_length_le {ds : List Char} (h : ds.length ≤ digitLimit) :
    ofDigits ds = .ok (Text.digitsValue ds) := by
  rw [ofDigits, if_neg (Nat.not_lt.mpr h)]

namespace Version

/-- Every run of digits in a text is short enough to be read as a number. -/
def Readable (cs : List Char) : Prop :=
  ∀ run, run <:+: cs → run.all Text.isDigit → run.length ≤ Numeral.digitLimit

/-- A part of a readable text is readable. -/
theorem Readable.of_infix {cs part : List Char} (h : Readable cs) (hp : part <:+: cs) :
    Readable part :=
  fun run hr hd => h run (hr.trans hp) hd

/-- A text that is no longer than the limit is readable. -/
theorem readable_of_length_le {cs : List Char} (h : cs.length ≤ Numeral.digitLimit) :
    Readable cs :=
  fun _ hr _ => hr.length_le.trans h

/-! ## Keys -/

/-- The runs that the scan of a text finds consist of digits and stand in the text. -/
theorem infix_of_mem_digitRunsFrom {run : List Char} (cs : List Char) :
    ∀ current, current.all Text.isDigit → run ∈ digitRunsFrom current cs →
      run <:+: current.reverse ++ cs ∧ run.all Text.isDigit := by
  -- The digits read so far stand before the rest, in reverse.
  induction cs with
  | nil =>
    intro current hd hr
    rw [digitRunsFrom] at hr
    split at hr
    · cases hr
    · rw [List.mem_singleton.mp hr, List.append_nil, List.all_reverse]
      exact ⟨List.infix_rfl, hd⟩
  | cons c cs ih =>
    intro current hd hr
    rw [digitRunsFrom] at hr
    split at hr
    case isTrue hc =>
      have hrun := ih (c :: current) (by simp [hc, hd]) hr
      rwa [List.reverse_cons, List.append_assoc] at hrun
    case isFalse hc =>
      have later (h : run ∈ digitRunsFrom [] cs) :
          run <:+: current.reverse ++ c :: cs ∧ run.all Text.isDigit := by
        obtain ⟨hi, hd⟩ := ih [] rfl h
        refine ⟨hi.trans ?_, hd⟩
        exact ((List.suffix_cons c cs).trans (List.suffix_append _ _)).isInfix
      split at hr
      · exact later hr
      · rcases List.mem_cons.mp hr with rfl | hr
        · rw [List.all_reverse]
          exact ⟨(List.prefix_append _ _).isInfix, hd⟩
        · exact later hr

/-- Runs within the limit are all read. -/
theorem mapM_ofDigits {runs : List (List Char)}
    (h : ∀ run ∈ runs, run.length ≤ Numeral.digitLimit) :
    runs.mapM Numeral.ofDigits = .ok (runs.map Text.digitsValue) := by
  induction runs with
  | nil => rfl
  | cons run runs ih =>
    rw [List.mapM_cons, Numeral.ofDigits_of_length_le (h run List.mem_cons_self),
      ih fun r hr => h r (List.mem_cons_of_mem _ hr)]
    rfl

/-- The numbers in a readable text are read. -/
theorem mapM_digitRuns {cs : List Char} (h : Readable cs) :
    (digitRuns cs).mapM Numeral.ofDigits = .ok ((digitRuns cs).map Text.digitsValue) := by
  apply mapM_ofDigits
  intro run hr
  obtain ⟨hi, hd⟩ := infix_of_mem_digitRunsFrom cs [] rfl hr
  exact h run hi hd

/-- A readable text has a key. -/
theorem exists_key {cs : List Char} (h : Readable cs) : ∃ k, key cs = .ok k :=
  ⟨_, by rw [key, mapM_digitRuns h]⟩

/-! ## Major versions -/

/-- The numbers in front of a readable version are read, if there are any. -/
theorem exists_major? {version : String} (h : Readable version.toList) :
    ∃ n, major? version = .ok n := by
  have hs : Readable (Text.strip version.toList) := h.of_infix (Text.strip_infix _)
  have hread : ∀ cs : List Char, cs <:+: Text.strip version.toList →
      Numeral.ofDigits (cs.takeWhile Text.isDigit)
        = .ok (Text.digitsValue (cs.takeWhile Text.isDigit)) := by
    intro cs hin
    have hrun : cs.takeWhile Text.isDigit <:+: Text.strip version.toList :=
      (List.takeWhile_prefix _).isInfix.trans hin
    exact Numeral.ofDigits_of_length_le (hs _ hrun List.all_takeWhile)
  unfold major?
  dsimp only
  split
  · exact ⟨none, rfl⟩
  · rw [hread _ List.infix_rfl]
    dsimp only
    -- The second number stands behind the first one and a point.
    split
    · rename_i rest hrest
      have hin : rest <:+: Text.strip version.toList :=
        ((List.suffix_cons '.' rest).trans (hrest ▸ List.drop_suffix _ _)).isInfix
      rw [hread rest hin]
      split <;> exact ⟨_, rfl⟩
    · split <;> exact ⟨_, rfl⟩

/-! ## Ranges -/

/-- Both ends of a range are parts of the text that it is read from. -/
theorem infix_of_range? {cs : List Char} {r : Range} (h : range? cs = some r) :
    r.low <:+: cs ∧ r.high <:+: cs := by
  unfold range? at h
  split at h
  · cases h
  · rename_i first rest
    split at h
    · cases h
    · split at h
      · split at h
        · rename_i low high hs
          cases h
          have hrest : rest.dropLast <:+: first :: rest :=
            List.infix_cons (List.dropLast_prefix _).isInfix
          have hpart := Text.infix_of_mem_splitOn ',' rest.dropLast
          rw [hs] at hpart
          exact ⟨((Text.strip_infix low).trans (hpart low (by simp))).trans hrest,
            ((Text.strip_infix high).trans (hpart high (by simp))).trans hrest⟩
        · cases h
      · cases h

/-- Against a readable low end a version can be compared. -/
theorem exists_aboveLow {r : Range} (h : Readable r.low) (k : List Nat) :
    ∃ b, r.aboveLow k = .ok b := by
  obtain ⟨l, hl⟩ := exists_key h
  rw [Range.aboveLow, hl]
  split <;> exact ⟨_, rfl⟩

/-- Against a readable high end a version can be compared. -/
theorem exists_belowHigh {r : Range} (h : Readable r.high) (k : List Nat) :
    ∃ b, r.belowHigh k = .ok b := by
  obtain ⟨l, hl⟩ := exists_key h
  rw [Range.belowHigh, hl]
  split <;> exact ⟨_, rfl⟩

/-- Readable texts are compared: a readable version meets a readable requirement, or it does not. -/
theorem exists_meets {requirement provided : String} (hr : Readable requirement.toList)
    (hp : Readable provided.toList) : ∃ b, meets requirement provided = .ok b := by
  have hs : Readable (Text.strip requirement.toList) := hr.of_infix (Text.strip_infix _)
  have ha : Readable (Text.strip provided.toList) := hp.of_infix (Text.strip_infix _)
  unfold meets
  dsimp only
  split
  · -- The ends of a range are parts of the requirement, and so readable.
    rename_i r hrange
    obtain ⟨hlow, hhigh⟩ := infix_of_range? hrange
    obtain ⟨k, hk⟩ := exists_key hp
    obtain ⟨above, habove⟩ := exists_aboveLow (hs.of_infix hlow) k
    obtain ⟨below, hbelow⟩ := exists_belowHigh (hs.of_infix hhigh) k
    simp only [Range.contains, hk, habove]
    cases above with
    | false => exact ⟨false, rfl⟩
    | true => exact ⟨below, hbelow⟩
  · obtain ⟨a, hka⟩ := exists_key hs
    obtain ⟨b, hkb⟩ := exists_key ha
    rw [hka, hkb]
    split <;> exact ⟨_, rfl⟩

end Version

end Downlevel
