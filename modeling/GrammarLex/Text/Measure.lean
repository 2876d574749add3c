/-!
# Actions that never make a measure grow

Reading is written as actions on a state that may fail and that keep, in either case, what they
changed. This module says when an action leaves a measure of the state no larger than before, and
takes a sequence of two actions apart.
-/
namespace GrammarLex

variable {ε σ α β : Type}

/-- The state in which an action leaves off, whether it succeeds or fails. -/
def finalState : EStateM.Result ε σ α → σ
  | .ok _ s => s
  | .error _ s => s

@[simp] theorem finalState_ok (a : α) (s : σ) :
    finalState (EStateM.Result.ok a s : EStateM.Result ε σ α) = s := rfl

@[simp] theorem finalState_error (e : ε) (s : σ) :
    finalState (EStateM.Result.error e s : EStateM.Result ε σ α) = s := rfl

theorem bind_apply (m : EStateM ε σ α) (f : α → EStateM ε σ β) (s : σ) :
    (m >>= f) s = match m s with
      | .ok a t => f a t
      | .error e t => .error e t := rfl

theorem bind_eq_ok {m : EStateM ε σ α} {f : α → EStateM ε σ β} {s t : σ} {b : β} :
    (m >>= f) s = .ok b t ↔ ∃ a u, m s = .ok a u ∧ f a u = .ok b t := by
  rw [bind_apply]
  cases m s with
  | ok a u =>
    constructor
    · exact fun second => ⟨a, u, rfl, second⟩
    · rintro ⟨a', u', same, second⟩
      cases same
      exact second
  | error e u => simp

theorem bind_eq_error {m : EStateM ε σ α} {f : α → EStateM ε σ β} {s t : σ} {e : ε} :
    (m >>= f) s = .error e t ↔
      m s = .error e t ∨ ∃ a u, m s = .ok a u ∧ f a u = .error e t := by
  rw [bind_apply]
  cases m s with
  | ok a u =>
    constructor
    · exact fun second => .inr ⟨a, u, rfl, second⟩
    · rintro (same | ⟨a', u', same, second⟩)
      · cases same
      · cases same
        exact second
  | error e' u => simp

@[simp] theorem pure_apply (a : α) (s : σ) : (pure a : EStateM ε σ α) s = .ok a s := rfl

@[simp] theorem throw_apply (e : ε) (s : σ) : (throw e : EStateM ε σ α) s = .error e s := rfl

@[simp] theorem get_apply (s : σ) : (get : EStateM ε σ σ) s = .ok s s := rfl

@[simp] theorem modify_apply (f : σ → σ) (s : σ) :
    (modify f : EStateM ε σ PUnit) s = .ok ⟨⟩ (f s) := rfl

def NonGrowing (μ : σ → Nat) (m : EStateM ε σ α) : Prop :=
  ∀ s, μ (finalState (m s)) ≤ μ s

namespace NonGrowing

variable {μ : σ → Nat}

theorem pure (a : α) : NonGrowing μ (Pure.pure a : EStateM ε σ α) :=
  fun _ => Nat.le_refl _

theorem throw (e : ε) : NonGrowing μ (MonadExcept.throw e : EStateM ε σ α) :=
  fun _ => Nat.le_refl _

theorem get : NonGrowing μ (MonadState.get : EStateM ε σ σ) :=
  fun _ => Nat.le_refl _

theorem bind {m : EStateM ε σ α} {f : α → EStateM ε σ β} (first : NonGrowing μ m)
    (second : ∀ a, NonGrowing μ (f a)) : NonGrowing μ (m >>= f) := by
  intro s
  have bound := first s
  rw [bind_apply]
  cases result : m s with
  | error e t => simpa [result] using bound
  | ok a t =>
    rw [result] at bound
    exact Nat.le_trans (second a t) bound

/-- A result of a non-growing action has a state that is no larger. -/
theorem of_ok {m : EStateM ε σ α} (nonGrowing : NonGrowing μ m) {s t : σ} {a : α}
    (result : m s = .ok a t) : μ t ≤ μ s := by
  simpa [result] using nonGrowing s

end NonGrowing

end GrammarLex
