import Downlevel.Proofs.Registry.Find
import Downlevel.Proofs.World.Recording
/-!
# Selecting for the build

A registry is asked for toolchains time and again. For each type it keeps the toolchain that the last
request for the type found, if any request found one. A request that finds nothing is told, and
changes nothing; one that comes across a version that cannot be read fails, and changes nothing
either. The toolchains themselves always stay as they are.
-/
namespace Downlevel.Registry

/-! ## Requests -/

/-- A request to select a toolchain of a type that meets requirements. -/
structure Request where
  type : String
  requirements : List (String × String)
  deriving DecidableEq, Repr

namespace Request

/-- Whether a toolchain is one that is asked for. -/
def fits (q : Request) : Toolchain → Bool :=
  Toolchain.fits q.type q.requirements

/-- All versions that are asked for can be read. -/
def Readable (q : Request) : Prop :=
  ∀ v, ("version", v) ∈ q.requirements → Version.Readable v.toList

/-- What is told of a request that finds nothing. -/
def unmatchedText (q : Request) : String :=
  "No " ++ q.type ++ " toolchain matches " ++ (Data.ofPairs q.requirements).print

/-- A toolchain fits a request if it has its type and satisfies its requirements. -/
theorem fits_iff {q : Request} {t : Toolchain} :
    q.fits t = true ↔ t.type = q.type ∧ t.satisfies q.requirements = .ok true := by
  unfold fits Toolchain.fits
  rw [Bool.and_eq_true, decide_eq_true_iff]
  refine and_congr_right fun _ => ?_
  rcases t.satisfies q.requirements with e | met
  · exact iff_of_false Bool.false_ne_true nofun
  · exact ⟨congrArg _, Except.ok.inj⟩

end Request

/-! ## One request -/

/-- What comes of a request to the toolchains of a registry: the first that fits, if the search of
them does not fail. -/
def Request.answer (q : Request) (ts : List Toolchain) : Except Failure (Option Toolchain) :=
  (findIn q.type q.requirements ts).map List.head?

variable {r : Registry} {q : Request} {w : World} {type : String} {t : Toolchain}
  {ts : List Toolchain}

/-- What a search that does not fail finds are the toolchains that fit. -/
theorem eq_filter_of_findIn {requirements : List (String × String)} {found : List Toolchain}
    (h : findIn type requirements ts = .ok found) :
    found = ts.filter (Toolchain.fits type requirements) := by
  induction ts generalizing found with
  | nil =>
    cases h
    rfl
  | cons t ts ih =>
    rw [findIn] at h
    -- The first toolchain fits or not, and the search goes on with the others.
    rw [List.filter_cons]
    split at h
    · rename_i htype
      split at h
      · cases h
      · rename_i met hmet
        split at h
        · cases h
        · rename_i more hmore
          cases h
          simp only [Toolchain.fits, htype, hmet, decide_true, Bool.true_and, ih hmore]
    · rename_i htype
      simp only [Toolchain.fits, htype, decide_false, Bool.false_and, Bool.false_eq_true, if_false,
        ih h]

/-- An answer is the first toolchain in the order of the registry that fits. -/
theorem Request.find?_of_answer {found : Option Toolchain} (h : q.answer ts = .ok found) :
    ts.find? q.fits = found := by
  unfold answer at h
  cases hfind : findIn q.type q.requirements ts with
  | error e =>
    rw [hfind] at h
    cases h
  | ok all =>
    rw [hfind] at h
    cases h
    rw [eq_filter_of_findIn hfind, List.head?_filter]
    rfl

/-- With versions that can be read, a request is answered. -/
theorem Request.answer_of_readable (hts : ∀ t ∈ ts, t.Readable) (hq : q.Readable) :
    q.answer ts = .ok (ts.find? q.fits) := by
  unfold answer
  rw [findIn_eq_filter fun t ht => Toolchain.exists_satisfies (hts t ht) hq, Except.map,
    List.head?_filter]
  rfl

/-- All that a request does is given by its answer. -/
theorem runIn_select (r : Registry) (q : Request) (w : World) :
    (r.select q.type q.requirements).runIn w = match q.answer r.toolchains with
      | .error e => (.error e, w)
      | .ok none => (.ok (none, r), w.recorded logger .warning q.unmatchedText)
      | .ok (some t) => (.ok (some t, r.setSelected q.type t), w) := by
  unfold select find Request.answer
  rw [Action.runIn_bind, Action.runIn_ofExcept]
  rcases findIn q.type q.requirements r.toolchains with e | _ | ⟨t, ts⟩ <;> rfl

/-- A selection for a type is none for another type. -/
theorem forBuild_setSelected_of_ne {other : String} (h : other ≠ type) :
    (r.setSelected type t).forBuild other = r.forBuild other := by
  -- The entries that are taken out are those of `type`, and none of them is for `other`.
  have hkept : ∀ selected : List (String × Toolchain),
      (selected.filter fun e => e.1 ≠ type).lookup other = selected.lookup other := by
    intro selected
    induction selected with
    | nil => rfl
    | cons e selected ih =>
      obtain ⟨key, value⟩ := e
      by_cases hkey : key = type
      · subst hkey
        rw [List.filter_cons_of_neg (by simp), ih, List.lookup_cons, beq_false_of_ne h]
      · rw [List.filter_cons_of_pos (by simpa using hkey), List.lookup_cons, List.lookup_cons, ih]
  unfold forBuild setSelected
  rw [List.lookup_cons, beq_false_of_ne h]
  exact hkept r.selected

/-! ## Requests in a row -/

/-- A registry that was asked for toolchains: each request with its answer, the registry as it is
now, and the world. -/
structure Asked where
  answers : List (Request × Except Failure (Option Toolchain))
  registry : Registry
  world : World

/-- One more request. A request that fails leaves the registry as it was. -/
def Asked.next (a : Asked) (q : Request) : Asked :=
  match (a.registry.select q.type q.requirements).runIn a.world with
  | (.ok (found, r), w) => ⟨a.answers ++ [(q, .ok found)], r, w⟩
  | (.error e, w) => ⟨a.answers ++ [(q, .error e)], a.registry, w⟩

/-- A registry after requests in a row. -/
def asked (r : Registry) (w : World) (qs : List Request) : Asked :=
  qs.foldl Asked.next ⟨[], r, w⟩

/-- A toolchain that was found is selected, and one that was not is told. -/
theorem Asked.next_eq (a : Asked) (q : Request) :
    a.next q = {
      answers := a.answers ++ [(q, q.answer a.registry.toolchains)]
      registry := match q.answer a.registry.toolchains with
        | .ok (some t) => a.registry.setSelected q.type t
        | _ => a.registry
      world := match q.answer a.registry.toolchains with
        | .ok none => a.world.recorded logger .warning q.unmatchedText
        | _ => a.world } := by
  unfold next
  rw [runIn_select]
  rcases q.answer a.registry.toolchains with e | _ | t <;> rfl

/-! ## The last request that found something -/

/-- What a request found, if it asked for a type. -/
def foundFor (type : String) (answer : Request × Except Failure (Option Toolchain)) :
    Option Toolchain :=
  if answer.1.type = type then answer.2.toOption.join else none

/-- What the last request for a type found that found anything. -/
def lastFound (type : String) (answers : List (Request × Except Failure (Option Toolchain))) :
    Option Toolchain :=
  answers.reverse.findSome? (foundFor type)

variable {answers : List (Request × Except Failure (Option Toolchain))}
  {answer : Request × Except Failure (Option Toolchain)}

/-- The last toolchain of a type is that of the last answer with one. -/
theorem lastFound_concat (type : String)
    (answers : List (Request × Except Failure (Option Toolchain)))
    (answer : Request × Except Failure (Option Toolchain)) :
    lastFound type (answers ++ [answer]) = (foundFor type answer).or (lastFound type answers) := by
  unfold lastFound
  rw [List.reverse_append, List.findSome?_append, List.reverse_singleton, List.findSome?_singleton]

/-- An answer is for a type if it found a toolchain on a request for it. -/
theorem foundFor_eq_some : foundFor type answer = some t ↔
    answer.1.type = type ∧ answer.2 = .ok (some t) := by
  obtain ⟨q, e | _ | found⟩ := answer <;> simp [foundFor, Except.toOption]

/-- An answer is not for a type if it found nothing, or was asked for another type. -/
theorem foundFor_eq_none : foundFor type answer = none ↔
    ∀ t, answer.2 = .ok (some t) → answer.1.type ≠ type := by
  rw [Option.eq_none_iff_forall_ne_some]
  refine forall_congr' fun t => ?_
  rw [Ne, foundFor_eq_some, not_and']

/-- There is no last toolchain of a type if no answer was for it. -/
theorem lastFound_eq_none : lastFound type answers = none ↔
    ∀ q t, (q, .ok (some t)) ∈ answers → q.type ≠ type := by
  unfold lastFound
  rw [List.findSome?_eq_none_iff]
  constructor
  · intro h q t hmem
    exact foundFor_eq_none.mp (h _ (List.mem_reverse.mpr hmem)) t rfl
  · rintro h ⟨q, answer⟩ hmem
    refine foundFor_eq_none.mpr fun t ht => ?_
    subst ht
    exact h q t (List.mem_reverse.mp hmem)

/-- No later request for the type found anything. -/
theorem lastFound_eq_some : lastFound type answers = some t ↔
    ∃ before q after, answers = before ++ (q, .ok (some t)) :: after ∧ q.type = type ∧
      ∀ q' t', (q', .ok (some t')) ∈ after → q'.type ≠ type := by
  constructor
  · intro h
    -- The search goes from the end, so it splits the answers in reverse.
    obtain ⟨after, ⟨q, answer⟩, before, hsplit, hfound, hlater⟩ :=
      List.findSome?_eq_some_iff.mp h
    obtain ⟨htype, rfl⟩ := foundFor_eq_some.mp hfound
    refine ⟨before.reverse, q, after.reverse, ?_, htype, ?_⟩
    · rw [← answers.reverse_reverse, hsplit, List.reverse_append, List.reverse_cons,
        List.append_assoc]
      rfl
    · intro q' t' hmem
      exact foundFor_eq_none.mp (hlater _ (List.mem_reverse.mp hmem)) t' rfl
  · rintro ⟨before, q, after, rfl, htype, hlater⟩
    have hnone : after.reverse.findSome? (foundFor type) = none := lastFound_eq_none.mpr hlater
    have hfound : foundFor type (q, .ok (some t)) = some t := foundFor_eq_some.mpr ⟨htype, rfl⟩
    unfold lastFound
    rw [List.reverse_append, List.findSome?_append, List.reverse_cons, List.findSome?_append, hnone,
      List.findSome?_singleton, hfound]
    rfl

/-! ## What stays true -/

/-- After requests a registry still has its toolchains, every answer is the one of its toolchains,
and what is selected for a type is what the last request for it found. -/
structure Asked.Faithful (ts : List Toolchain) (qs : List Request) (a : Asked) : Prop where
  toolchains : a.registry.toolchains = ts
  answers : a.answers = qs.map fun q => (q, q.answer ts)
  selected : ∀ type, a.registry.forBuild type = lastFound type a.answers

variable {qs : List Request} {a : Asked}

/-- One more request keeps a registry faithful. -/
theorem Asked.Faithful.next (h : a.Faithful ts qs) (q : Request) :
    (a.next q).Faithful ts (qs ++ [q]) := by
  rw [next_eq, h.toolchains]
  refine ⟨?_, ?_, fun type => ?_⟩
  · rw [← h.toolchains]
    dsimp only
    split <;> rfl
  · rw [h.answers, List.map_append, List.map_singleton]
  · dsimp only
    rw [lastFound_concat]
    -- Only a request that finds something selects, and only for the type that it asks for.
    split
    · rename_i t hanswer
      rw [hanswer]
      by_cases htype : type = q.type
      · have hfound : foundFor type (q, .ok (some t)) = some t :=
          foundFor_eq_some.mpr ⟨htype.symm, rfl⟩
        rw [hfound, htype]
        exact forBuild_setSelected _ _ _
      · rw [foundFor_eq_none.mpr fun _ _ => Ne.symm htype, Option.none_or, ← h.selected]
        exact forBuild_setSelected_of_ne htype
    · rename_i hanswer
      rw [foundFor_eq_none.mpr fun t ht => absurd ht (hanswer t), Option.none_or, h.selected]

/-- Answers stay faithful over any number of requests. -/
theorem Asked.Faithful.foldl (h : a.Faithful ts qs) (more : List Request) :
    (more.foldl Asked.next a).Faithful ts (qs ++ more) := by
  induction more generalizing qs a with
  | nil => rwa [List.append_nil]
  | cons q more ih =>
    rw [List.foldl_cons, List.append_cons]
    exact ih (h.next q)

/-- A registry in which nothing is selected yet is faithful after any requests. -/
theorem faithful_asked (ts : List Toolchain) (w : World) (qs : List Request) :
    (asked ⟨ts, []⟩ w qs).Faithful ts qs := by
  have hnew : Asked.Faithful ts [] ⟨[], ⟨ts, []⟩, w⟩ := ⟨rfl, rfl, fun _ => rfl⟩
  exact hnew.foldl qs

/-- Each answer is the one of its request. -/
theorem Asked.Faithful.answer_eq (h : a.Faithful ts qs)
    {answer : Request × Except Failure (Option Toolchain)} (hmem : answer ∈ a.answers) :
    answer.2 = answer.1.answer ts := by
  rw [h.answers] at hmem
  obtain ⟨q, -, rfl⟩ := List.mem_map.mp hmem
  rfl

/-- What was found is a toolchain of the registry that fits. -/
theorem Asked.Faithful.of_found (h : a.Faithful ts qs) (hmem : (q, .ok (some t)) ∈ a.answers) :
    t ∈ ts ∧ t.type = q.type ∧ t.satisfies q.requirements = .ok true := by
  have hfirst := Request.find?_of_answer (h.answer_eq hmem).symm
  exact ⟨List.mem_of_find?_eq_some hfirst,
    Request.fits_iff.mp (List.find?_some hfirst)⟩

/-! ## The selection -/

/-- **The selection for the build.** After any requests to a new registry the toolchains are what they
were. For a type that no request found a toolchain for nothing is selected. Otherwise it is what the
last request for the type found that found one: the first toolchain in the order of the registry that
is of the type and meets the requirements. One more request changes no selection for another type. If
it finds nothing it is told once, and if it finds nothing or fails it changes no selection at all;
where all versions can be read it does not fail. -/
theorem selection_of_requests (ts : List Toolchain) (w : World) (qs : List Request) :
    let a := asked ⟨ts, []⟩ w qs
    a.registry.toolchains = ts ∧
    a.answers.map Prod.fst = qs ∧
    (∀ type, a.registry.forBuild type = none ↔
      ∀ q t, (q, .ok (some t)) ∈ a.answers → q.type ≠ type) ∧
    (∀ type t, a.registry.forBuild type = some t ↔
      ∃ before q after, a.answers = before ++ (q, .ok (some t)) :: after ∧ q.type = type ∧
        ∀ q' t', (q', .ok (some t')) ∈ after → q'.type ≠ type) ∧
    (∀ q found, (q, .ok found) ∈ a.answers → ts.find? q.fits = found) ∧
    (∀ type t, a.registry.forBuild type = some t → t ∈ ts ∧ t.type = type ∧
      ∃ q ∈ qs, q.type = type ∧ t.satisfies q.requirements = .ok true) ∧
    ((∀ t ∈ ts, t.Readable) → ∀ q answer, (q, answer) ∈ a.answers → q.Readable →
      answer = .ok (ts.find? q.fits)) ∧
    ∀ q, ∃ answer, (a.next q).answers = a.answers ++ [(q, answer)] ∧
      (∀ type, type ≠ q.type → (a.next q).registry.forBuild type = a.registry.forBuild type) ∧
      (∀ t, answer = .ok (some t) →
        (a.next q).registry.forBuild q.type = some t ∧ (a.next q).world = a.world) ∧
      (answer = .ok none → (a.next q).registry = a.registry ∧
        (a.next q).world = a.world.recorded logger .warning q.unmatchedText ∧
        (a.world.log.records .warning = true → (a.next q).world.journal
          = a.world.journal ++ [(Level.warning.name, q.unmatchedText)])) ∧
      (∀ e, answer = .error e →
        (a.next q).registry = a.registry ∧ (a.next q).world = a.world) := by
  intro a
  have h : a.Faithful ts qs := faithful_asked ts w qs
  have hlatest : ∀ type t, a.registry.forBuild type = some t ↔
      ∃ before q after, a.answers = before ++ (q, .ok (some t)) :: after ∧ q.type = type ∧
        ∀ q' t', (q', .ok (some t')) ∈ after → q'.type ≠ type := by
    intro type t
    rw [h.selected, lastFound_eq_some]
  -- The answers are a fold over the requests, so each part is read off them.
  refine ⟨h.toolchains, ?_, ?_, hlatest, ?_, ?_, ?_, fun q => ?_⟩
  · rw [h.answers, List.map_map]
    exact List.map_id qs
  · intro type
    rw [h.selected, lastFound_eq_none]
  · intro q found hmem
    exact Request.find?_of_answer (h.answer_eq hmem).symm
  · intro type t hselected
    obtain ⟨before, q, after, hsplit, htype, -⟩ := (hlatest type t).mp hselected
    have hmem : (q, .ok (some t)) ∈ a.answers := by
      rw [hsplit]
      exact List.mem_append_right _ List.mem_cons_self
    obtain ⟨hregistered, hsame, hmet⟩ := h.of_found hmem
    have hasked : q ∈ a.answers.map Prod.fst := List.mem_map_of_mem hmem
    rw [h.answers, List.map_map] at hasked
    exact ⟨hregistered, hsame.trans htype, q, by simpa using hasked, htype, hmet⟩
  · intro hts q answer hmem hq
    exact (h.answer_eq hmem).trans (Request.answer_of_readable hts hq)
  · -- The next request is answered by its own search, and selects what it found.
    have hnext := a.next_eq q
    refine ⟨q.answer a.registry.toolchains, by rw [hnext], ?_, ?_, ?_, ?_⟩
    · intro type htype
      rw [hnext]
      dsimp only
      split
      · exact forBuild_setSelected_of_ne htype
      · rfl
    · intro t hanswer
      rw [hnext, hanswer]
      exact ⟨forBuild_setSelected _ _ _, rfl⟩
    · intro hanswer
      rw [hnext, hanswer]
      exact ⟨rfl, rfl, World.journal_recorded (by cbv)⟩
    · intro e hanswer
      rw [hnext, hanswer]
      exact ⟨rfl, rfl⟩

end Downlevel.Registry
