/-!
# Doing what may fail

What is done to a state, step by step, until it is through or a step fails.
What the steps before that did stays done, so going back to an earlier state
is for the steps to see to.
-/

namespace Songbook

/-- What is done to a state and may fail. -/
abbrev Fallible (ε σ : Type) := ExceptT ε (StateM σ)

namespace Fallible

variable {ε σ α β : Type}

/-- Does something to a state: the answer or the error, and the state after
it. -/
def on (act : Fallible ε σ α) (state : σ) : Except ε α × σ :=
  act.run.run state

@[simp] theorem on_pure (a : α) (state : σ) :
    (pure a : Fallible ε σ α).on state = (.ok a, state) :=
  rfl

@[simp] theorem on_throw (e : ε) (state : σ) :
    (throw e : Fallible ε σ α).on state = (.error e, state) :=
  rfl

@[simp] theorem on_get (state : σ) :
    (get : Fallible ε σ σ).on state = (.ok state, state) :=
  rfl

@[simp] theorem on_set (state after : σ) :
    (set after : Fallible ε σ PUnit).on state = (.ok ⟨⟩, after) :=
  rfl

@[simp] theorem on_liftM (result : Except ε α) (state : σ) :
    (liftM result : Fallible ε σ α).on state = (result, state) :=
  rfl

/-- After a step that succeeds the next ones go on from its answer and its
state. -/
theorem on_bind_of_ok {act : Fallible ε σ α} {next : α → Fallible ε σ β}
    {state after : σ} {a : α} (h : act.on state = (.ok a, after)) :
    (act >>= next).on state = (next a).on after := by
  show ((ExceptT.mk fun _ => act.on state) >>= next :
      Fallible ε σ β).on state = _
  rw [h]
  rfl

/-- After a step that fails nothing more is done. -/
theorem on_bind_of_error {act : Fallible ε σ α} {next : α → Fallible ε σ β}
    {state after : σ} {e : ε} (h : act.on state = (.error e, after)) :
    (act >>= next).on state = (.error e, after) := by
  show ((ExceptT.mk fun _ => act.on state) >>= next :
      Fallible ε σ β).on state = _
  rw [h]
  rfl

theorem on_tryCatch_of_ok {act : Fallible ε σ α} {handle : ε → Fallible ε σ α}
    {state after : σ} {a : α} (h : act.on state = (.ok a, after)) :
    (tryCatch act handle).on state = (.ok a, after) := by
  show (tryCatch (ExceptT.mk fun _ => act.on state) handle :
      Fallible ε σ α).on state = _
  rw [h]
  rfl

/-- An error is dealt with in the state in which it was met. -/
theorem on_tryCatch_of_error {act : Fallible ε σ α}
    {handle : ε → Fallible ε σ α} {state after : σ} {e : ε}
    (h : act.on state = (.error e, after)) :
    (tryCatch act handle).on state = (handle e).on after := by
  show (tryCatch (ExceptT.mk fun _ => act.on state) handle :
      Fallible ε σ α).on state = _
  rw [h]
  rfl

end Fallible

end Songbook
