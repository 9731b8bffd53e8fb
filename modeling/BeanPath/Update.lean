import BeanPath.Failure

/-!
# Updates

An update changes a state and gives a result, or it fails.  What it did to the state before it
failed stays done, so whether a failed update changed anything is a question of its own.  An update
of a part becomes an update of the whole by a way to put the part back.
-/

namespace BeanPath

/-- A computation that changes a state and may fail; a failure keeps the state reached. -/
abbrev Update (σ α : Type) := EStateM Failure σ α

instance : MonadLift (Except Failure) (Update σ) where
  monadLift
    | .ok a => fun s => .ok a s
    | .error e => fun s => .error e s

namespace Update

/-- The state that an update leaves. -/
def state : EStateM.Result Failure σ α → σ
  | .ok _ s => s
  | .error _ s => s

/-- The result of an update. -/
def result : EStateM.Result Failure σ α → Except Failure α
  | .ok a _ => .ok a
  | .error e _ => .error e

/-- An operation that succeeds with a new state or fails and leaves the state as it was. -/
def atomic (f : σ → Except Failure (α × σ)) : Update σ α := fun s =>
  match f s with
  | .ok (a, s') => .ok a s'
  | .error e => .error e s

/-- Runs an update on a part and puts the part back, whether it fails or not. -/
def within (part : σ) (put : σ → τ) (u : Update σ α) : Update τ α := fun _ =>
  match u part with
  | .ok a part => .ok a (put part)
  | .error e part => .error e (put part)

/-- An atomic operation changes the state only if it succeeds. -/
@[simp] theorem state_atomic (f : σ → Except Failure (α × σ)) (s : σ) :
    state (atomic f s) = match f s with
      | .ok (_, s') => s'
      | .error _ => s := by
  unfold atomic
  split <;> simp [state, *]

/-- After an update of a part, failed or not, the whole has the part as the update left it. -/
@[simp] theorem state_within (part : σ) (put : σ → τ) (u : Update σ α) (t : τ) :
    state (within part put u t) = put (state (u part)) := by
  unfold within
  split <;> rename_i h <;> simp [h, state]

end Update

end BeanPath
