import GrammarLex.Text.Measure

/-!
# Where an action leads

An action on a state either succeeds, with a result and a new state, or fails. `Leads` says what is
to hold in both cases, and is taken apart along the structure of the action.
-/
namespace GrammarLex

variable {ε σ α β : Type}

/-- What an action answers, the state left aside. -/
def answerOf : EStateM.Result ε σ α → Except ε α
  | .ok a _ => .ok a
  | .error e _ => .error e

/-- The action ends with a result and a state as described, or with an error as described. -/
def Leads (m : EStateM ε σ α) (s : σ) (done : α → σ → Prop) (failed : ε → Prop) : Prop :=
  match m s with
  | .ok a t => done a t
  | .error e _ => failed e

variable {m : EStateM ε σ α} {f : α → EStateM ε σ β} {s t : σ} {failed : ε → Prop}

theorem Leads.of_ok {a : α} {done : α → σ → Prop} (result : m s = .ok a t) (holds : done a t) :
    Leads m s done failed := by
  rw [Leads, result]
  exact holds

theorem Leads.of_error {e : ε} {done : α → σ → Prop} (result : m s = .error e t)
    (holds : failed e) : Leads m s done failed := by
  rw [Leads, result]
  exact holds

theorem Leads.of_eq {m' : EStateM ε σ α} {s' : σ} {done : α → σ → Prop} (same : m s = m' s')
    (leads : Leads m' s' done failed) : Leads m s done failed := by
  rw [Leads, same]
  exact leads

theorem leads_bind {done : β → σ → Prop} :
    Leads (m >>= f) s done failed ↔ Leads m s (fun a t => Leads (f a) t done failed) failed := by
  rw [Leads, Leads, bind_apply]
  cases m s <;> rfl

@[simp] theorem leads_pure {a : α} {done : α → σ → Prop} :
    Leads (pure a : EStateM ε σ α) s done failed ↔ done a s := Iff.rfl

@[simp] theorem leads_get {done : σ → σ → Prop} :
    Leads (get : EStateM ε σ σ) s done failed ↔ done s s := Iff.rfl

@[simp] theorem leads_modify {g : σ → σ} {done : PUnit → σ → Prop} :
    Leads (modify g : EStateM ε σ PUnit) s done failed ↔ done ⟨⟩ (g s) := Iff.rfl

end GrammarLex
