import Mathlib.Order.Defs.Unbundled
import Downlevel.World
/-!
# Running steps

What each way to put steps together does to a world, and a frame for all of them: a step stays
within a relation between worlds if it leads every world to a related one. For a reflexive and
transitive relation that is checked on the parts of a step.
-/
namespace Downlevel

namespace Action

variable {α β : Type}

/-! ## Results -/

/-- What fails after it was mapped failed before. -/
theorem error_of_map {r : Except Failure α} {f : α → β} {e : Failure} (h : r.map f = .error e) :
    r = .error e := by
  cases r with
  | error e' =>
    cases h
    rfl
  | ok x => cases h

/-- Results one after the other fail as the first of them that fails. -/
theorem exists_of_mapM_eq_error {f : α → Except Failure β} {xs : List α} {e : Failure}
    (h : xs.mapM f = .error e) : ∃ x ∈ xs, f x = .error e := by
  induction xs with
  | nil => cases h
  | cons x xs ih =>
    rw [List.mapM_cons] at h
    cases hx : f x with
    | error e' =>
      rw [hx] at h
      cases h
      exact ⟨x, List.mem_cons_self, hx⟩
    | ok y =>
      rw [hx] at h
      obtain ⟨x', hmem, hx'⟩ := ih (error_of_map h)
      exact ⟨x', List.mem_cons_of_mem _ hmem, hx'⟩

/-! ## Runs of the parts -/

@[simp] theorem runIn_throw (e : Failure) (w : World) :
    (throw e : Action α).runIn w = (.error e, w) := rfl

@[simp] theorem runIn_get (w : World) : (get : Action World).runIn w = (.ok w, w) := rfl

@[simp] theorem runIn_set (w' w : World) : (set w' : Action PUnit).runIn w = (.ok ⟨⟩, w') := rfl

@[simp] theorem runIn_modify (f : World → World) (w : World) :
    (modify f : Action PUnit).runIn w = (.ok ⟨⟩, f w) := rfl

@[simp] theorem runIn_view (f : World → α) (w : World) :
    (Action.view f).runIn w = (.ok (f w), w) := rfl

@[simp] theorem runIn_ofExcept (r : Except Failure α) (w : World) :
    (Action.ofExcept r).runIn w = (r, w) := by
  cases r <;> rfl

@[simp] theorem runIn_logAs (logger : String) (level : Level) (message : String) (w : World) :
    (logAs logger level message).runIn w = (.ok ⟨⟩, w.recorded logger level message) := rfl

/-- A failure ends a sequence of steps; the world is as the failed step left it. -/
theorem runIn_bind (a : Action α) (f : α → Action β) (w : World) :
    (a >>= f).runIn w = match a.runIn w with
      | (.ok x, w') => (f x).runIn w'
      | (.error e, w') => (.error e, w') := by
  show (match a w with | (x, w') => ExceptT.bindCont f x w') = _
  unfold runIn
  rcases a w with ⟨_ | _, w'⟩ <;> rfl

/-- A step after one that goes well starts where that one ends. -/
theorem runIn_bind_ok {a : Action α} {w w' : World} {x : α} (h : a.runIn w = (.ok x, w'))
    (f : α → Action β) : (a >>= f).runIn w = (f x).runIn w' := by
  rw [runIn_bind, h]

/-- A pure function of a result changes nothing but the result. -/
theorem runIn_bind_pure (a : Action α) (f : α → β) (w : World) :
    (a >>= fun x => pure (f x)).runIn w = ((a.runIn w).1.map f, (a.runIn w).2) := by
  rw [runIn_bind]
  rcases a.runIn w with ⟨e | x, w'⟩ <;> rfl

/-- If two steps in a row go well, both do. -/
theorem runIn_bind_eq_ok {a : Action α} {f : α → Action β} {w w'' : World} {y : β}
    (h : (a >>= f).runIn w = (.ok y, w'')) :
    ∃ x w', a.runIn w = (.ok x, w') ∧ (f x).runIn w' = (.ok y, w'') := by
  rw [runIn_bind] at h
  rcases ha : a.runIn w with ⟨e | x, w'⟩
  · rw [ha] at h
    cases h
  · rw [ha] at h
    exact ⟨x, w', rfl, h⟩

/-- A handler starts in the world that the failed step left. -/
theorem runIn_tryCatch (a : Action α) (f : Failure → Action α) (w : World) :
    (tryCatch a f).runIn w = match a.runIn w with
      | (.ok x, w') => (.ok x, w')
      | (.error e, w') => (f e).runIn w' := by
  unfold runIn
  simp only [tryCatch, tryCatchThe, MonadExceptOf.tryCatch, ExceptT.tryCatch, ExceptT.mk, bind,
    StateT.bind]
  rcases a w with ⟨_ | _, w'⟩ <;> rfl

/-- A failure that passes a test is wrapped, and the world is left as it is. -/
theorem runIn_orFail (a : Action α) (test : Fault → Bool) (wrap : Failure → Failure) (w : World) :
    (a.orFail test wrap).runIn w = match a.runIn w with
      | (.ok x, w') => (.ok x, w')
      | (.error e, w') => (.error (if test e.fault then wrap e else e), w') := by
  unfold runIn
  simp only [orFail]
  rcases a w with ⟨_ | _, w'⟩ <;> rfl

/-! ## Steps within a relation -/

/-- Wherever a step starts, it leads to a related world, whether it fails or not. -/
def Within (R : World → World → Prop) (a : Action α) : Prop :=
  ∀ w, R w (a.runIn w).2

variable {R : World → World → Prop}

/-- A relation that a step keeps holds between the ends of a run of it. -/
theorem Within.of_runIn {a : Action α} (h : a.Within R) {r : Except Failure α} {w w' : World}
    (hrun : a.runIn w = (r, w')) : R w w' := by
  have hw := h w
  rw [hrun] at hw
  exact hw

/-- What keeps a relation keeps a wider one. -/
theorem Within.mono {S : World → World → Prop} {a : Action α} (h : a.Within R)
    (hRS : ∀ w w', R w w' → S w w') : a.Within S :=
  fun w => hRS _ _ (h w)

/-- A step that records a message keeps what records keep. -/
theorem within_logAs (h : ∀ w logger level message, R w (w.recorded logger level message))
    (logger : String) (level : Level) (message : String) :
    (logAs logger level message).Within R :=
  fun w => h w logger level message

/-- Wrapping a failure changes nothing. -/
theorem Within.orFail {a : Action α} (h : a.Within R) (test : Fault → Bool)
    (wrap : Failure → Failure) : (a.orFail test wrap).Within R := by
  intro w
  have hw := h w
  rw [runIn_orFail]
  revert hw
  rcases a.runIn w with ⟨_ | _, w'⟩ <;> exact id

/-- What is done with the world that was got is done in that world. -/
theorem within_get_bind {f : World → Action α} (h : ∀ w, R w ((f w).runIn w).2) :
    (get >>= f).Within R := by
  intro w
  rw [runIn_bind_ok (runIn_get w)]
  exact h w

theorem Within.ite {c : Prop} [Decidable c] {a b : Action α} (ha : a.Within R)
    (hb : b.Within R) : (if c then a else b).Within R := by
  split
  · exact ha
  · exact hb

section Refl

variable [Std.Refl R]

theorem within_pure (x : α) : (pure x : Action α).Within R := fun w => Std.Refl.refl w

theorem within_throw (e : Failure) : (throw e : Action α).Within R := fun w => Std.Refl.refl w

theorem within_fail (f : Fault) : (Action.fail f : Action α).Within R := fun w => Std.Refl.refl w

theorem within_get : (get : Action World).Within R := fun w => Std.Refl.refl w

theorem within_view (f : World → α) : (Action.view f).Within R := fun w => Std.Refl.refl w

/-- To look at a result keeps any relation. -/
theorem within_ofExcept (r : Except Failure α) : (Action.ofExcept r).Within R := by
  intro w
  rw [runIn_ofExcept]
  exact Std.Refl.refl w

end Refl

section Trans

variable [IsTrans World R]

/-- A relation that is transitive is kept by two steps in a row. -/
theorem Within.bind {a : Action α} {f : α → Action β} (ha : a.Within R)
    (hf : ∀ x, (f x).Within R) : (a >>= f).Within R := by
  intro w
  have hw := ha w
  rw [runIn_bind]
  revert hw
  rcases a.runIn w with ⟨e | x, w'⟩
  · exact id
  · exact fun hw => IsTrans.trans _ _ _ hw (hf x w')

/-- A handler keeps what the step and all its handlings keep. -/
theorem Within.tryCatch {a : Action α} {f : Failure → Action α} (ha : a.Within R)
    (hf : ∀ e, (f e).Within R) : (tryCatch a f).Within R := by
  intro w
  have hw := ha w
  rw [runIn_tryCatch]
  revert hw
  rcases a.runIn w with ⟨e | x, w'⟩
  · exact fun hw => IsTrans.trans _ _ _ hw (hf e w')
  · exact id

/-- A step for each thing of a list keeps what each of them keeps. -/
theorem Within.forM [Std.Refl R] {f : β → Action PUnit} (hf : ∀ x, (f x).Within R)
    (xs : List β) : (xs.forM f).Within R := by
  induction xs with
  | nil => exact fun w => Std.Refl.refl w
  | cons x xs ih => exact (hf x).bind fun _ => ih

end Trans

/-! ## Steps with the same result everywhere -/

/-- The result of a step does not depend on the world; its effects may. -/
def Fixed (a : Action α) : Prop :=
  ∀ w w', (a.runIn w').1 = (a.runIn w).1

theorem fixed_pure (x : α) : (pure x : Action α).Fixed := fun _ _ => rfl

theorem fixed_logAs (logger : String) (level : Level) (message : String) :
    (logAs logger level message).Fixed := fun _ _ => rfl

theorem fixed_ofExcept (r : Except Failure α) : (Action.ofExcept r).Fixed := by
  intro w w'
  rw [runIn_ofExcept, runIn_ofExcept]

/-- What has the same result everywhere can be done after what has the same result in two worlds. -/
theorem fst_runIn_bind_congr {a : Action α} {f : α → Action β} {w w' : World}
    (ha : (a.runIn w').1 = (a.runIn w).1) (hf : ∀ x, (f x).Fixed) :
    ((a >>= f).runIn w').1 = ((a >>= f).runIn w).1 := by
  rw [runIn_bind, runIn_bind]
  revert ha
  rcases a.runIn w with ⟨e | x, v⟩ <;> rcases a.runIn w' with ⟨e' | x', v'⟩
  all_goals
    intro ha
    cases ha
  · rfl
  · exact hf x v v'

/-- To wrap failures asks nothing more of the world. -/
theorem fst_runIn_orFail_congr {a : Action α} {w w' : World}
    (ha : (a.runIn w').1 = (a.runIn w).1) (test : Fault → Bool) (wrap : Failure → Failure) :
    ((a.orFail test wrap).runIn w').1 = ((a.orFail test wrap).runIn w).1 := by
  rw [runIn_orFail, runIn_orFail]
  revert ha
  rcases a.runIn w with ⟨e | x, v⟩ <;> rcases a.runIn w' with ⟨e' | x', v'⟩
  all_goals
    intro ha
    cases ha
  · rfl
  · rfl

/-- Steps with the same result everywhere have it in a row as well. -/
theorem Fixed.bind {a : Action α} {f : α → Action β} (ha : a.Fixed) (hf : ∀ x, (f x).Fixed) :
    (a >>= f).Fixed :=
  fun w w' => fst_runIn_bind_congr (ha w w') hf

/-- What has the same result everywhere has it for each of a list. -/
theorem Fixed.forM {f : β → Action PUnit} (hf : ∀ x, (f x).Fixed) (xs : List β) :
    (xs.forM f).Fixed := by
  induction xs with
  | nil => exact fixed_pure _
  | cons x xs ih => exact (hf x).bind fun _ => ih

end Action

/-! ## Steps of something that they change -/

namespace ActionOn

variable {σ α β : Type}

@[simp] theorem runOn_thing (s : σ) (w : World) :
    (ActionOn.thing : ActionOn σ σ).runOn s w = ((.ok s, s), w) := rfl

@[simp] theorem runOn_lift (a : Action α) (s : σ) (w : World) :
    (ActionOn.lift a).runOn s w = (((a.runIn w).1, s), (a.runIn w).2) := rfl

/-- Two steps in a row: the second starts where the first ends, unless that fails. -/
theorem runOn_bind (a : ActionOn σ α) (f : α → ActionOn σ β) (s : σ) (w : World) :
    (a >>= f).runOn s w = match a.runOn s w with
      | ((.ok x, s'), w') => (f x).runOn s' w'
      | ((.error e, s'), w') => ((.error e, s'), w') := by
  unfold runOn
  simp only [bind, ExceptT.bind, ExceptT.mk, StateT.bind]
  rcases a s w with ⟨⟨_ | _, s'⟩, w'⟩ <;> rfl

/-- A step goes on with what the one before it gave. -/
theorem runOn_bind_ok {a : ActionOn σ α} {s s' : σ} {w w' : World} {x : α}
    (h : a.runOn s w = ((.ok x, s'), w')) (f : α → ActionOn σ β) :
    (a >>= f).runOn s w = (f x).runOn s' w' := by
  rw [runOn_bind, h]

/-- After a failure nothing is done. -/
theorem runOn_bind_error {a : ActionOn σ α} {s s' : σ} {w w' : World} {e : Failure}
    (h : a.runOn s w = ((.error e, s'), w')) (f : α → ActionOn σ β) :
    (a >>= f).runOn s w = ((.error e, s'), w') := by
  rw [runOn_bind, h]

/-- A handler starts where the failure was. -/
theorem runOn_tryCatch (a : ActionOn σ α) (f : Failure → ActionOn σ α) (s : σ) (w : World) :
    (tryCatch a f).runOn s w = match a.runOn s w with
      | ((.ok x, s'), w') => ((.ok x, s'), w')
      | ((.error e, s'), w') => (f e).runOn s' w' := by
  unfold runOn
  simp only [tryCatch, tryCatchThe, MonadExceptOf.tryCatch, ExceptT.tryCatch, ExceptT.mk, bind,
    StateT.bind]
  rcases a s w with ⟨⟨_ | _, s'⟩, w'⟩ <;> rfl

end ActionOn

/-! ## What a step keeps -/

/-- What can be read off two worlds is the same. -/
def Same {β : Type} (g : World → β) (w w' : World) : Prop :=
  g w' = g w

instance {β : Type} (g : World → β) : Std.Refl (Same g) :=
  ⟨fun _ => rfl⟩

instance {β : Type} (g : World → β) : IsTrans World (Same g) :=
  ⟨fun _ _ _ h h' => h'.trans h⟩

end Downlevel
