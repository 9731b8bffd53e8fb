import BeanPath.Failure.Problem
import BeanPath.Update

/-!
# Updates that fail cleanly

A computation that may fail is a chain of steps, and what it gives is known once the steps are
peeled off one at a time (`bind_eq_ok_iff`, `Update.bind_apply`).

An update may change its state before it fails.  It *restores* if a failure leaves the state as it
was (`Update.Restores`).  An atomic update restores; an update of a part that restores makes one of
the whole that does, if putting back what was there changes nothing.

What holds of a state is *kept* if it holds of every state that the update leaves, after a failure
too (`Update.Keeps`); a chain of steps keeps what every step keeps (`Update.Keeps.bind`).
-/

namespace BeanPath

variable {ε σ τ α β : Type}

instance decidableEqExcept [DecidableEq ε] [DecidableEq α] : DecidableEq (Except ε α)
  | .ok a, .ok b => decidable_of_iff (a = b) (by simp)
  | .error e, .error f => decidable_of_iff (e = f) (by simp)
  | .ok _, .error _ | .error _, .ok _ => .isFalse nofun

instance decidableEqResult [DecidableEq ε] [DecidableEq σ] [DecidableEq α] :
    DecidableEq (EStateM.Result ε σ α)
  | .ok a s, .ok b t => decidable_of_iff (a = b ∧ s = t) (by simp)
  | .error e s, .error f t => decidable_of_iff (e = f ∧ s = t) (by simp)
  | .ok _ _, .error _ _ | .error _ _, .ok _ _ => .isFalse nofun

/-! ### Peeling computations -/

/-- A chain succeeds exactly if its first step does and the rest, given what that step returned,
succeeds with the result of the chain. -/
theorem bind_eq_ok_iff {x : Except ε α} {f : α → Except ε β} {b : β} :
    (x >>= f) = .ok b ↔ ∃ a, x = .ok a ∧ f a = .ok b := by
  cases x <;> simp [bind, Except.bind]

/-- A chain whose first step has succeeded is the rest of it. -/
theorem bind_ok (a : α) (f : α → Except ε β) : ((.ok a : Except ε α) >>= f) = f a := rfl

/-- A chain whose first step has failed has failed, whatever the rest would do. -/
theorem bind_error (e : ε) (f : α → Except ε β) : ((.error e : Except ε α) >>= f) = .error e := rfl

/-- What is merely returned is a success, with nothing but what was returned. -/
theorem pure_eq_ok_iff {a b : α} : (pure a : Except ε α) = .ok b ↔ a = b := by
  simp [pure, Except.pure]

/-- A result that is passed through a function is a success with what the function makes of it, and
of nothing else. -/
theorem map_eq_ok_iff {x : Except ε α} {f : α → β} {b : β} :
    x.map f = .ok b ↔ ∃ a, x = .ok a ∧ f a = b := by
  cases x <;> simp [Except.map]

/-- Forgetting why something failed neither adds a success nor loses one. -/
theorem toOption_eq_some_iff {x : Except ε α} {a : α} : x.toOption = some a ↔ x = .ok a := by
  cases x <;> simp [Except.toOption]

/-- A success stays the same when problems become failures. -/
theorem liftProblem_ok (a : α) : (liftM (.ok a : Except Problem α) : Except Failure α) = .ok a :=
  rfl

/-- A problem becomes the failure that reports it. -/
theorem liftProblem_error (p : Problem) :
    (liftM (.error p : Except Problem α) : Except Failure α) = .error p.failure := rfl

/-- Changing how an error is described makes no difference to what succeeds. -/
theorem mapError_eq_ok_iff {f : ε → σ} {x : Except ε α} {a : α} :
    x.mapError f = .ok a ↔ x = .ok a := by
  cases x with
  | ok b => constructor <;> (intro h; cases h; rfl)
  | error e => constructor <;> nofun

/-- What may fail with a problem succeeds exactly if it does as something that may fail with a
failure. -/
theorem liftProblem_eq_ok_iff {x : Except Problem α} {a : α} :
    (liftM x : Except Failure α) = .ok a ↔ x = .ok a := mapError_eq_ok_iff

/-- What may fail with a fault succeeds exactly if it does as something that may fail with a
failure. -/
theorem liftFault_eq_ok_iff {x : Except Fault α} {a : α} :
    (liftM x : Except Failure α) = .ok a ↔ x = .ok a := mapError_eq_ok_iff

/-- Whether a computation succeeds with something of a kind can be checked by running it. -/
instance decidableExistsOk {x : Except ε α} {p : α → Prop} [DecidablePred p] :
    Decidable (∃ a, x = .ok a ∧ p a) :=
  match x with
  | .ok a => decidable_of_iff (p a) (by simp)
  | .error _ => .isFalse (by simp)

namespace Update

/-- Asking for the state gives the state and leaves it as it is. -/
theorem get_apply (s : σ) : (MonadState.get : Update σ σ) s = .ok s s := rfl

/-- A chain of updates goes on in the state that its first update left, and stops in it if that
update failed. -/
theorem bind_apply (u : Update σ α) (f : α → Update σ β) (s : σ) :
    (u >>= f) s = match u s with
      | .ok a s => f a s
      | .error e s => .error e s := by
  show EStateM.bind u f s = _
  unfold EStateM.bind
  cases u s <;> rfl

/-- An update whose result is passed through a function leaves the state that the update leaves. -/
theorem map_apply (f : α → β) (u : Update σ α) (s : σ) :
    (f <$> u) s = match u s with
      | .ok a s => .ok (f a) s
      | .error e s => .error e s := by
  show EStateM.map f u s = _
  unfold EStateM.map
  cases u s <;> rfl

/-- A computation without state leaves every state as it is, whether it succeeds or fails. -/
theorem lift_apply (x : Except Failure α) (s : σ) :
    (liftM x : Update σ α) s = match x with
      | .ok a => .ok a s
      | .error e => .error e s := by
  cases x <;> rfl

/-- A computation that may meet a problem leaves the state as it is; its problem is reported as a
failure. -/
theorem liftProblem_apply (x : Except Problem α) (s : σ) :
    (liftM x : Update σ α) s = match x with
      | .ok a => .ok a s
      | .error e => .error e.failure s := by
  cases x <;> rfl

/-- A computation that may meet a fault leaves the state as it is; its fault is reported as a
failure. -/
theorem liftFault_apply (x : Except Fault α) (s : σ) :
    (liftM x : Update σ α) s = match x with
      | .ok a => .ok a s
      | .error f => .error f.failure s := by
  cases x <;> rfl

/-- An atomic update succeeds exactly if its operation does, with that result and in that state. -/
theorem atomic_eq_ok_iff {f : σ → Except Failure (α × σ)} {s s' : σ} {a : α} :
    atomic f s = .ok a s' ↔ f s = .ok (a, s') := by
  unfold atomic
  rcases f s with e | ⟨b, t⟩ <;> simp

/-- If its operation fails, so does an atomic update, in the state it started from. -/
theorem atomic_of_error {f : σ → Except Failure (α × σ)} {s : σ} {e : Failure}
    (h : f s = .error e) : atomic f s = .error e s := by
  unfold atomic
  rw [h]

/-- An update of a part runs on the part, and the whole is put together again after a failure
too. -/
theorem within_apply (part : σ) (put : σ → τ) (u : Update σ α) (t : τ) :
    within part put u t = match u part with
      | .ok a part => .ok a (put part)
      | .error e part => .error e (put part) := rfl

/-- An update of a part succeeds on the whole exactly if it does on the part; the whole is then the
one with the changed part. -/
theorem within_eq_ok_iff {part : σ} {put : σ → τ} {u : Update σ α} {t t' : τ} {a : α} :
    within part put u t = .ok a t' ↔ ∃ part', u part = .ok a part' ∧ put part' = t' := by
  rw [within_apply]
  cases u part <;> simp [and_assoc]

/-- Only what an update does to the part in question matters to the whole. -/
theorem within_congr {u u' : Update σ α} {part : σ} (put : σ → τ) (t : τ)
    (h : u part = u' part) : u.within part put t = u'.within part put t := by
  rw [within_apply, within_apply, h]

/-! ### Failures that leave the state as it was -/

/-- An update that leaves the state as it was whenever it fails. -/
def Restores (u : Update σ α) : Prop := ∀ ⦃s e s'⦄, u s = .error e s' → s' = s

/-- An update that does nothing but fail restores. -/
theorem restores_throw (e : Failure) : (throw e : Update σ α).Restores := by
  rintro s e' s' h
  cases h
  rfl

/-- An atomic update restores: it has a new state only together with a result. -/
theorem restores_atomic (f : σ → Except Failure (α × σ)) : (atomic f).Restores := by
  rintro s e s' h
  unfold atomic at h
  split at h
  · cases h
  · cases h; rfl

/-- An update that first looks at the state restores if it does for every state it may have seen. -/
theorem restores_get_bind {f : σ → Update σ α} (hf : ∀ s, (f s).Restores) :
    (MonadState.get >>= f).Restores := fun s _ _ h => hf s h

/-- A check in front of an update costs nothing: if the check fails, nothing has been changed, and
the update has to restore only for what passed it. -/
theorem restores_lift_bind {x : Except Failure β} {f : β → Update σ α}
    (hf : ∀ b, x = .ok b → (f b).Restores) : (liftM x >>= f).Restores := by
  rintro s e s' h
  rw [bind_apply, lift_apply] at h
  cases x with
  | ok b => exact hf b rfl h
  | error f => cases h; rfl

/-- Returning something else after an update does not stop it from restoring. -/
theorem Restores.bind_pure {u : Update σ β} (hu : u.Restores) (a : α) :
    (u >>= fun _ => pure a).Restores := by
  rintro s e s' h
  rw [bind_apply] at h
  cases hs : u s with
  | ok b t => rw [hs] at h; cases h
  | error e' t => rw [hs] at h; cases h; exact hu hs

/-- Passing the result of an update through a function does not stop it from restoring. -/
theorem Restores.map {u : Update σ α} (hu : u.Restores) (f : α → β) : (f <$> u).Restores := by
  rintro s e s' h
  rw [map_apply] at h
  cases hs : u s with
  | ok a t => rw [hs] at h; cases h
  | error e' t => rw [hs] at h; cases h; exact hu hs

/-- An update that restores the part leaves a whole as it was, provided the part that was taken out
of it would make the same whole again. -/
theorem Restores.within {u : Update σ α} (hu : u.Restores) {part : σ} {put : σ → τ} {t : τ}
    (ht : put part = t) {e : Failure} {t' : τ} (h : within part put u t = .error e t') :
    t' = t := by
  rw [within_apply] at h
  cases hp : u part with
  | ok a p => rw [hp] at h; cases h
  | error e' p =>
    rw [hp] at h
    cases h
    rw [hu hp, ht]

/-! ### Updates that keep a property of the state -/

section Keeps
variable {P : σ → Prop}

/-- An update that keeps what holds of the state, whether it fails or not. -/
def Keeps (P : σ → Prop) (u : Update σ α) : Prop := ∀ s, P s → P (state (u s))

/-- Returning a result keeps everything. -/
theorem keeps_pure (a : α) : (pure a : Update σ α).Keeps P := fun _ hs => hs

/-- Failing keeps everything that holds of the state. -/
theorem keeps_throw (e : Failure) : (throw e : Update σ α).Keeps P := fun _ hs => hs

/-- Looking at the state keeps everything that holds of it. -/
theorem keeps_get : (MonadState.get : Update σ σ).Keeps P := fun _ hs => hs

/-- A computation without state keeps everything that holds of the state. -/
theorem keeps_lift (x : Except Failure α) : (liftM x : Update σ α).Keeps P := by
  intro s hs
  rw [lift_apply]
  cases x <;> exact hs

/-- A chain keeps what its first update keeps if the rest keeps it too, whatever that update
returned. Where the first update fails, the rest is never run. -/
theorem Keeps.bind {u : Update σ α} {f : α → Update σ β} (hu : u.Keeps P)
    (hf : ∀ a, (f a).Keeps P) : (u >>= f).Keeps P := by
  intro s hs
  have hu := hu s hs
  rw [bind_apply]
  cases h : u s with
  | ok a t =>
    rw [h] at hu
    exact hf a t hu
  | error e t =>
    rw [h] at hu
    exact hu

/-- An atomic update keeps what its operation keeps when it succeeds; there is no new state
otherwise. -/
theorem keeps_atomic {f : σ → Except Failure (α × σ)}
    (hf : ∀ s a s', P s → f s = .ok (a, s') → P s') : (atomic f).Keeps P := by
  intro s hs
  rw [state_atomic]
  cases h : f s with
  | error e => exact hs
  | ok r => exact hf s r.1 r.2 hs h

end Keeps

end Update
end BeanPath
