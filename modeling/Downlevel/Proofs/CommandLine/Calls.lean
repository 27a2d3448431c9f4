import Downlevel.CommandLine
import Downlevel.Proofs.Action
/-!
# Running calls

A step of a call gives something or ends the call, in either case in some world. Reading a command
line only looks at the world. A call that goes well ends with an exit code of zero once its outcome is
shown; a failure that nothing handles ends it with one, unless it is an order to stop. That is asked of a
toolkit, and the one that the program runs with here does it.
-/
namespace Downlevel.CommandLine

namespace Call

variable {α β : Type} {t : Toolkit}

/-! ## Runs of the parts -/

/-- Takes a step of a call in a world: what it gives or how the call ends, and the world
afterwards. -/
def stepIn (c : Call α) (w : World) : Except Ending α × World :=
  c w

@[simp] theorem stepIn_get (w : World) : (get : Call World).stepIn w = (.ok w, w) := rfl

/-- A call goes on where the one before it ended, unless that one ended the whole. -/
theorem stepIn_bind (c : Call α) (f : α → Call β) (w : World) :
    (c >>= f).stepIn w = match c.stepIn w with
      | (.ok x, w') => (f x).stepIn w'
      | (.error e, w') => (.error e, w') := by
  show (match c w with | (x, w') => ExceptT.bindCont f x w') = _
  unfold stepIn
  rcases c w with ⟨_ | _, w'⟩ <;> rfl

/-- A call goes on with what the one before it gave. -/
theorem stepIn_bind_ok {c : Call α} {w w' : World} {x : α} (h : c.stepIn w = (.ok x, w'))
    (f : α → Call β) : (c >>= f).stepIn w = (f x).stepIn w' := by
  rw [stepIn_bind, h]

/-- What can be read goes on in the same world. -/
theorem stepIn_reading_ok {f : World → Except Outcome α} {w : World} {x : α} (h : f w = .ok x) :
    (reading f).stepIn w = (.ok x, w) := by
  unfold stepIn reading
  rw [h]

/-- An action that goes well is a step that goes well. -/
theorem stepIn_ofAction_ok {a : Action α} {end_ : Failure → Ending} {w w' : World} {x : α}
    (h : a.runIn w = (.ok x, w')) : (ofAction a end_).stepIn w = (.ok x, w') := by
  unfold stepIn ofAction
  rw [h]

/-- A failed action ends a call. -/
theorem stepIn_ofAction_error {a : Action α} {end_ : Failure → Ending} {w w' : World} {e : Failure}
    (h : a.runIn w = (.error e, w')) : (ofAction a end_).stepIn w = (.error (end_ e), w') := by
  unfold stepIn ofAction
  rw [h]

/-- What a call comes to is shown. -/
theorem runIn_of_ok {c : Call Display.Printable} {w w' : World} {p : Display.Printable}
    (h : c.stepIn w = (.ok p, w')) : c.runIn t w = (t.closing 0 p, w') := by
  unfold stepIn at h
  unfold runIn
  rw [h]

/-- A call that ends early has the outcome of its ending. -/
theorem runIn_of_error {c : Call Display.Printable} {w w' : World} {e : Ending}
    (h : c.stepIn w = (.error e, w')) : c.runIn t w = (Outcome.ofEnding t e, w') := by
  unfold stepIn at h
  unfold runIn
  rw [h]

end Call

/-! ## Reading a command line -/

namespace Reader

/-- A command line is not answered if neither the version nor the help is asked for. -/
theorem answer?_eq_none_iff {w : World} {scope : Scope} {line : Line} :
    answer? w scope line = none ↔ ∀ s ∈ line.options, s ≠ .version ∧ s ≠ .help := by
  simp [answer?]

/-- The path that was given for an option passes if it can be what it has to be. -/
theorem misuse?_eq_none_iff {w : World} {line : Line} {s : Switch} : misuse? w line s = none ↔
    ∀ operand path, s.operand? = some operand → line.value? s = some path →
      pathMisuse? w operand path = none := by
  unfold misuse?
  cases s.operand? <;> cases line.value? s <;> simp

/-- **Which command lines are accepted.** A command line is read if its words are, neither the
version nor the help is asked for, every path passes, and a command has no arguments. -/
theorem read_eq_ok_iff {w : World} {scope : Scope} {words : List String} {line : Line} :
    read w scope words = .ok line ↔ Line.parse scope words = .ok line ∧
      (∀ s ∈ line.options, s ≠ .version ∧ s ≠ .help) ∧
      (∀ s ∈ line.options, ∀ operand path, s.operand? = some operand →
        line.value? s = some path → pathMisuse? w operand path = none) ∧
      (scope = .program ∨ line.arguments = []) := by
  have hopen (line : Line) : ¬ (scope ≠ .program ∧ (!line.arguments.isEmpty) = true)
      ↔ scope = .program ∨ line.arguments = [] := by
    by_cases hscope : scope = .program <;> simp [hscope]
  unfold read
  cases Line.parse scope words with
  | error m => exact iff_of_false nofun fun h => nomatch h.1
  | ok parsed =>
    dsimp only
    constructor
    · intro h
      split at h
      · cases h
      · rename_i hanswer
        split at h
        · cases h
        · rename_i hpaths
          split at h
          · cases h
          · -- Neither a text to show, nor a bad path, nor a word too many: the line is the one
            -- parsed.
            rename_i harguments
            cases h
            exact ⟨rfl, answer?_eq_none_iff.mp hanswer,
              fun s hs => misuse?_eq_none_iff.mp (List.findSome?_eq_none_iff.mp hpaths s hs),
              (hopen _).mp harguments⟩
    · rintro ⟨hline, hasked, hpaths, harguments⟩
      cases hline
      have hchecked : line.options.findSome? (misuse? w line) = none :=
        List.findSome?_eq_none_iff.mpr fun s hs => misuse?_eq_none_iff.mpr (hpaths s hs)
      rw [answer?_eq_none_iff.mpr hasked]
      dsimp only
      rw [hchecked]
      dsimp only
      rw [if_neg ((hopen _).mpr harguments)]

end Reader

/-! ## How calls end -/

namespace Toolkit

/-- Something is shown without a failure. -/
def Shows (t : Toolkit) (p : Display.Printable) : Prop :=
  (t.renderer.afterLine p).2 = none

/-- What is asked of a toolkit about the ends of calls: a failure that no step handles ends a call with
the code one, unless it is an order to stop, and to show something is no order to stop. -/
structure Regular (t : Toolkit) : Prop where
  failed : ∀ e, e.fault.isExit = false → (t.failed e).exitCode = 1
  shown : ∀ p e, t.renderer.print p = .error e → e.fault.isExit = false

variable {t : Toolkit} {p : Display.Printable}

/-- What is shown ends a call with its code. -/
theorem exitCode_closing_of_shows (h : t.Shows p) (code : Int) :
    (t.closing code p).exitCode = code := by
  unfold Shows at h
  unfold closing
  rcases hprint : t.renderer.afterLine p with ⟨output, _ | e⟩
  · rfl
  · rw [hprint] at h
    cases h

/-- If it cannot be shown, the call ends with the code one. -/
theorem Regular.exitCode_closing (ht : t.Regular) (h : ¬ t.Shows p) (code : Int) :
    (t.closing code p).exitCode = 1 := by
  unfold Shows at h
  unfold closing
  rcases hprint : t.renderer.afterLine p with ⟨output, _ | e⟩
  · rw [hprint] at h
    exact absurd rfl h
  · refine ht.failed e ?_
    unfold Display.Renderer.afterLine at hprint
    split at hprint
    · rename_i hline
      cases hprint
      exact ht.shown _ _ hline
    · split at hprint
      · rename_i hpanel
        cases hprint
        exact ht.shown _ _ hpanel
      · cases hprint

end Toolkit

/-- A failure that nothing handles and that is no order to stop ends a call with the code one. -/
theorem Outcome.exitCode_ofFailure {f : Failure} (h : f.fault.isExit = false) :
    (Outcome.ofFailure f).exitCode = 1 := by
  obtain ⟨fault, causes⟩ := f
  unfold Outcome.ofFailure
  dsimp only
  split
  · cases h
  · rfl
  · rfl
  · rfl

/-- The toolkit of the program gives every failure an exit code. -/
theorem Toolkit.regular_standard : standard.Regular where
  failed _ := Outcome.exitCode_ofFailure
  shown _ _ := nofun

end Downlevel.CommandLine
