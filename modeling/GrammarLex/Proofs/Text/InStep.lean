import GrammarLex.Text.Measure

/-!
# Two runs of an action in step

An action is run from two states. The runs are in step when they end alike: with the same result, or
with the same error. The only other way out is that the second run fails while the first goes on;
then the first is followed alone, as a run that is in step with itself. `InStep` is taken apart along
the structure of the action.
-/
namespace GrammarLex

variable {ε σ α β : Type}

/-- What a run of an action comes to, compared with itself. -/
inductive Alone (m : EStateM ε σ α) (s : σ) (done : α → σ → σ → Prop) (failed : ε → σ → σ → Prop) :
    Prop where
  | ok {a : α} {s' : σ} (result : m s = .ok a s') (holds : done a s' s')
  | error {e : ε} {s' : σ} (result : m s = .error e s') (holds : failed e s' s')

/-- The runs of an action from two states end alike, or the second one parts from the first. -/
inductive InStep (m : EStateM ε σ α) (s t : σ) (done : α → σ → σ → Prop) (failed : ε → σ → σ → Prop)
    (parted : ε → Prop) : Prop where
  | done {a : α} {s' t' : σ} (left : m s = .ok a s') (right : m t = .ok a t') (holds : done a s' t')
  | failed {e : ε} {s' t' : σ} (left : m s = .error e s') (right : m t = .error e t')
      (holds : failed e s' t')
  | parted {e : ε} {t' : σ} (right : m t = .error e t') (holds : parted e)
      (alone : Alone m s done failed)

variable {m : EStateM ε σ α} {f : α → EStateM ε σ β} {s t : σ} {done : α → σ → σ → Prop}
  {failed : ε → σ → σ → Prop} {parted : ε → Prop}

namespace InStep

/-- A run that is in step with itself. -/
theorem alone (inStep : InStep m s s done failed parted) : Alone m s done failed := by
  cases inStep with
  | done left right holds =>
    cases left.symm.trans right
    exact .ok left holds
  | failed left right holds =>
    cases left.symm.trans right
    exact .error left holds
  | parted _ _ alone => exact alone

/-- A run followed alone is in step with itself. -/
theorem of_alone (alone : Alone m s done failed) : InStep m s s done failed parted := by
  cases alone with
  | ok result holds => exact .done result result holds
  | error result holds => exact .failed result result holds

theorem mono {done' : α → σ → σ → Prop} (inStep : InStep m s t done failed parted)
    (weaker : ∀ {a s' t'}, done a s' t' → done' a s' t') : InStep m s t done' failed parted := by
  cases inStep with
  | done left right holds => exact .done left right (weaker holds)
  | failed left right holds => exact .failed left right holds
  | parted right holds alone =>
    refine .parted right holds ?_
    cases alone with
    | ok left holds => exact .ok left (weaker holds)
    | error left holds => exact .error left holds

/-- What an action begins with decides whether it is in step: wherever the beginnings end alike, be
they one run compared with itself, the action has to be in step, and where the second one fails alone
the action has to fail with it. The action may be one on a larger state. -/
theorem follow_lift {ε' σ' γ : Type} {m' : EStateM ε' σ' γ} {done' : γ → σ' → σ' → Prop}
    {failed' : ε' → σ' → σ' → Prop} {parted' : ε' → Prop} (lift : σ → σ')
    (first : InStep m s t done failed parted)
    (ok : ∀ {t a s' t'}, m s = .ok a s' → m t = .ok a t' → done a s' t' →
      InStep m' (lift s) (lift t) done' failed' parted')
    (error : ∀ {t e s' t'}, m s = .error e s' → m t = .error e t' → failed e s' t' →
      InStep m' (lift s) (lift t) done' failed' parted')
    (stuck : ∀ {e t'}, m t = .error e t' → parted e →
      ∃ e' u, m' (lift t) = .error e' u ∧ parted' e') :
    InStep m' (lift s) (lift t) done' failed' parted' := by
  cases first with
  | done left right holds => exact ok left right holds
  | failed left right holds => exact error left right holds
  | parted right holds alone =>
    obtain ⟨e', u, ended, holds'⟩ := stuck right holds
    refine .parted ended holds' ?_
    cases alone with
    | ok left holds => exact (ok left left holds).alone
    | error left holds => exact (error left left holds).alone

theorem follow {γ : Type} {m' : EStateM ε σ γ} {done' : γ → σ → σ → Prop}
    {failed' : ε → σ → σ → Prop} (first : InStep m s t done failed parted)
    (ok : ∀ {t a s' t'}, m s = .ok a s' → m t = .ok a t' → done a s' t' →
      InStep m' s t done' failed' parted)
    (error : ∀ {t e s' t'}, m s = .error e s' → m t = .error e t' → failed e s' t' →
      InStep m' s t done' failed' parted)
    (stuck : ∀ {e t'}, m t = .error e t' → ∃ u, m' t = .error e u) :
    InStep m' s t done' failed' parted := by
  refine first.follow_lift (fun s => s) ok error ?_
  intro e t' right holds
  obtain ⟨u, ended⟩ := stuck right
  exact ⟨e, u, ended, holds⟩

theorem of_eq {m' : EStateM ε σ α} {s' t' : σ} (left : m s = m' s') (right : m t = m' t')
    (inStep : InStep m' s' t' done failed parted) : InStep m s t done failed parted := by
  cases inStep with
  | done left' right' holds => exact .done (left.trans left') (right.trans right') holds
  | failed left' right' holds => exact .failed (left.trans left') (right.trans right') holds
  | parted right' holds alone =>
    refine .parted (right.trans right') holds ?_
    cases alone with
    | ok left' holds => exact .ok (left.trans left') holds
    | error left' holds => exact .error (left.trans left') holds

/-- A sequence stays in step if what comes second does from wherever the first leads. -/
theorem bind {done : β → σ → σ → Prop}
    (first : InStep m s t (fun a s' t' => InStep (f a) s' t' done failed parted) failed parted) :
    InStep (m >>= f) s t done failed parted := by
  refine first.follow ?_ ?_ ?_
  · intro t a s' t' left right second
    exact second.of_eq (by rw [bind_apply, left]) (by rw [bind_apply, right])
  · intro t e s' t' left right holds
    exact .failed (bind_eq_error.mpr (.inl left)) (bind_eq_error.mpr (.inl right)) holds
  · intro e t' right
    exact ⟨t', bind_eq_error.mpr (.inl right)⟩

theorem pure {a : α} (holds : done a s t) : InStep (Pure.pure a) s t done failed parted :=
  .done rfl rfl holds

theorem throw {e : ε} (holds : failed e s t) :
    InStep (MonadExcept.throw e) s t done failed parted :=
  .failed rfl rfl holds

end InStep

end GrammarLex
