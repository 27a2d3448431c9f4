import Downlevel.Host
import Downlevel.Proofs.Action
import Downlevel.Registry
/-!
# Numerals that are too long

Versions are compared by their numbers, and numerals beyond a limit are not read. That is the only
way in which a version cannot be compared: every failure of a comparison, of a search for toolchains
and of a question to the host runtime is the failure to read such a numeral.
-/
namespace Downlevel

/-- The failure to read a numeral that has too many digits. -/
def Numeral.IsTooLong (e : Failure) : Prop :=
  ∃ ds : List Char, digitLimit < ds.length ∧ ofDigits ds = .error e

/-- Digits are refused for their number only. -/
theorem Numeral.isTooLong_of_error {ds : List Char} {e : Failure} (h : ofDigits ds = .error e) :
    IsTooLong e := by
  refine ⟨ds, Nat.lt_of_not_le fun hlimit => ?_, h⟩
  rw [ofDigits, if_neg (Nat.not_lt.mpr hlimit)] at h
  cases h

variable {e : Failure}

/-! ## Versions -/

namespace Version

/-- The major version is the first number, or the second one if that is to be read. -/
theorem isTooLong_of_second {n : Nat} {second : List Char}
    (h : (if n = 1 ∧ second ≠ [] then
      match Numeral.ofDigits second with
      | .error e => .error e
      | .ok m => .ok (some m)
    else .ok (some n) : Except Failure (Option Nat)) = .error e) : Numeral.IsTooLong e := by
  split at h
  · split at h
    · rename_i hsecond
      cases h
      exact Numeral.isTooLong_of_error hsecond
    · cases h
  · cases h

/-- A major version is refused for its digits only. -/
theorem isTooLong_of_major? {version : String} (h : major? version = .error e) :
    Numeral.IsTooLong e := by
  unfold major? at h
  dsimp only at h
  split at h
  · cases h
  · split at h
    · rename_i hfirst
      cases h
      exact Numeral.isTooLong_of_error hfirst
    · exact isTooLong_of_second h

/-- Runs of digits are refused for the digits of one of them. -/
theorem isTooLong_of_mapM {runs : List (List Char)} (h : runs.mapM Numeral.ofDigits = .error e) :
    Numeral.IsTooLong e := by
  obtain ⟨run, -, hrun⟩ := Action.exists_of_mapM_eq_error h
  exact Numeral.isTooLong_of_error hrun

/-- A version is refused for its digits only. -/
theorem isTooLong_of_key {cs : List Char} (h : key cs = .error e) : Numeral.IsTooLong e := by
  unfold key at h
  split at h
  · rename_i hruns
    cases h
    exact isTooLong_of_mapM hruns
  · cases h

/-- A low end is refused for its digits only. -/
theorem isTooLong_of_aboveLow {r : Range} {k : List Nat} (h : r.aboveLow k = .error e) :
    Numeral.IsTooLong e := by
  unfold Range.aboveLow at h
  split at h
  · cases h
  · split at h
    · rename_i hlow
      cases h
      exact isTooLong_of_key hlow
    · cases h

theorem isTooLong_of_belowHigh {r : Range} {k : List Nat} (h : r.belowHigh k = .error e) :
    Numeral.IsTooLong e := by
  unfold Range.belowHigh at h
  split at h
  · cases h
  · split at h
    · rename_i hhigh
      cases h
      exact isTooLong_of_key hhigh
    · cases h

/-- A range is refused for the digits of an end or of the version. -/
theorem isTooLong_of_contains {r : Range} {version : List Char}
    (h : r.contains version = .error e) : Numeral.IsTooLong e := by
  unfold Range.contains at h
  split at h
  · rename_i hversion
    cases h
    exact isTooLong_of_key hversion
  · split at h
    · rename_i hlow
      cases h
      exact isTooLong_of_aboveLow hlow
    · cases h
    · exact isTooLong_of_belowHigh h

/-- A requirement is refused for digits only. -/
theorem isTooLong_of_meets {requirement provided : String}
    (h : meets requirement provided = .error e) : Numeral.IsTooLong e := by
  unfold meets at h
  dsimp only at h
  split at h
  · exact isTooLong_of_contains h
  · split at h
    · split at h
      · rename_i hrequired
        cases h
        exact isTooLong_of_key hrequired
      · split at h
        · rename_i hactual
          cases h
          exact isTooLong_of_key hactual
        · cases h
    · cases h

end Version

/-- The version of a host is refused for its digits only. -/
theorem Host.isTooLong_of_isAtLeast {host : Host} {n : Int} (h : host.isAtLeast n = .error e) :
    Numeral.IsTooLong e := by
  unfold Host.isAtLeast at h
  split at h
  · rename_i hmajor
    cases h
    unfold Host.major? at hmajor
    split at hmajor
    · cases hmajor
    · exact Version.isTooLong_of_major? hmajor
  · cases h
  · cases h

/-! ## Toolchains -/

/-- The requirements on a toolchain are refused for digits only. -/
theorem Toolchain.isTooLong_of_satisfies {t : Toolchain} {requirements : List (String × String)}
    (h : t.satisfies requirements = .error e) : Numeral.IsTooLong e := by
  induction requirements with
  | nil => cases h
  | cons requirement requirements ih =>
    rw [Toolchain.satisfies] at h
    split at h
    · cases h
    · split at h
      · rename_i hmeets
        cases h
        unfold Toolchain.meets at hmeets
        split at hmeets
        · exact Version.isTooLong_of_meets hmeets
        · cases hmeets
      · cases h
      · exact ih h

/-- A search for toolchains is refused for digits only. -/
theorem Registry.isTooLong_of_find {r : Registry} {type : String}
    {requirements : List (String × String)} (h : r.find type requirements = .error e) :
    Numeral.IsTooLong e := by
  unfold Registry.find at h
  revert h
  induction r.toolchains with
  | nil => exact nofun
  | cons t ts ih =>
    intro h
    rw [Registry.findIn] at h
    split at h
    · split at h
      · rename_i hmeets
        cases h
        exact Toolchain.isTooLong_of_satisfies hmeets
      · split at h
        · rename_i hrest
          cases h
          exact ih hrest
        · cases h
    · exact ih h

end Downlevel
