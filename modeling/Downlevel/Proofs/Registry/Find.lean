import Downlevel.Proofs.Version.Readable
import Downlevel.Registry
/-!
# Toolchains that fit

The search of a registry stops at a version that cannot be read. Where all versions can be read it
is a filter: it gives the toolchains that have the type and meet the requirements, in their order.
-/
namespace Downlevel

namespace Toolchain

/-- The version that a toolchain provides, if it provides one, can be read. -/
def Readable (t : Toolchain) : Prop :=
  ∀ v, t.provides.lookup "version" = some v → Version.Readable v.toList

/-- Whether a toolchain has a type and meets all requirements. -/
def fits (type : String) (requirements : List (String × String)) (t : Toolchain) : Bool :=
  t.type = type && match t.satisfies requirements with
    | .ok met => met
    | .error _ => false

/-- Whether a toolchain provides a version that meets a requirement. -/
def offers (requirement : String) (t : Toolchain) : Bool :=
  match t.provides.lookup "version" with
  | none => false
  | some provided => match Version.meets requirement provided with
    | .ok met => met
    | .error _ => false

/-- A toolchain with readable versions is told to satisfy requirements or not. -/
theorem exists_satisfies {t : Toolchain} (ht : t.Readable) {requirements : List (String × String)}
    (hr : ∀ v, ("version", v) ∈ requirements → Version.Readable v.toList) :
    ∃ met, t.satisfies requirements = .ok met := by
  induction requirements with
  | nil => exact ⟨true, rfl⟩
  | cons requirement rest ih =>
    obtain ⟨key, required⟩ := requirement
    obtain ⟨met, hrest⟩ := ih fun v hv => hr v (List.mem_cons_of_mem _ hv)
    rw [satisfies]
    cases hp : t.provides.lookup key with
    | none => exact ⟨false, rfl⟩
    | some provided =>
      have hm : ∃ b, meets key required provided = .ok b := by
        -- Only versions are compared, and both of them can be read.
        unfold meets
        split
        · rename_i hkey
          subst hkey
          exact Version.exists_meets (hr required List.mem_cons_self) (ht provided hp)
        · exact ⟨_, rfl⟩
      obtain ⟨b, hb⟩ := hm
      simp only [hb]
      cases b with
      | false => exact ⟨false, rfl⟩
      | true => exact ⟨met, hrest⟩

/-- A requirement of a version alone is met by the version that is provided. -/
theorem fits_version (type version : String) (t : Toolchain) :
    t.fits type [("version", version)] = (t.type = type && t.offers version) := by
  unfold fits offers
  congr 1
  rw [satisfies]
  cases t.provides.lookup "version" with
  | none => rfl
  | some provided =>
    simp only [meets, if_pos]
    cases Version.meets version provided with
    | error e => rfl
    | ok met => cases met <;> rfl

end Toolchain

namespace Registry

/-- All versions that the toolchains of a registry provide can be read. -/
def Readable (r : Registry) : Prop :=
  ∀ t ∈ r.toolchains, t.Readable

/-- Finding keeps the toolchains that fit, in their order. -/
theorem findIn_eq_filter {type : String} {requirements : List (String × String)}
    {ts : List Toolchain} (h : ∀ t ∈ ts, ∃ met, t.satisfies requirements = .ok met) :
    findIn type requirements ts = .ok (ts.filter (Toolchain.fits type requirements)) := by
  induction ts with
  | nil => rfl
  | cons t ts ih =>
    have hts := ih fun u hu => h u (List.mem_cons_of_mem _ hu)
    obtain ⟨met, hmet⟩ := h t List.mem_cons_self
    rw [findIn, List.filter_cons, hts]
    by_cases ht : t.type = type
    · simp only [ht, if_pos, hmet, Toolchain.fits, decide_true, Bool.true_and]
    · simp only [ht, if_false, Toolchain.fits, decide_false, Bool.false_and, Bool.false_eq_true]

/-- The search of a registry is a filter. -/
theorem find_eq_filter {r : Registry} (h : r.Readable) (type : String)
    (requirements : List (String × String))
    (hr : ∀ v, ("version", v) ∈ requirements → Version.Readable v.toList) :
    r.find type requirements
      = .ok (r.toolchains.filter (Toolchain.fits type requirements)) :=
  findIn_eq_filter fun t ht => Toolchain.exists_satisfies (h t ht) hr

end Registry

end Downlevel
