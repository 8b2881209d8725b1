import StreamStore.Scan.Page

/-!
# Outcomes of operations that may fail

Checks answer `Except`, and operations of a backend run in `Access m`.  Over a
state `σ` an operation is a function from a state to an outcome and the next
state; `perform` is that function, and the laws below compute it through the
combinators that operations are written with, so that no later proof opens a
monad.  `bind_eq_ok` takes a successful chain of checks apart.
-/

namespace StreamStore

/-! ### Checks -/

section Checks

variable {ε α β : Type}

/-- A chain succeeds when its first part does and what follows does on its value. -/
theorem bind_eq_ok {x : Except ε α} {f : α → Except ε β} {b : β} :
    (x >>= f) = .ok b ↔ ∃ a, x = .ok a ∧ f a = .ok b := by
  cases x with
  | error e => exact ⟨fun h => (nomatch h), fun ⟨_, h, _⟩ => (nomatch h)⟩
  | ok a => exact ⟨fun h => ⟨a, rfl, h⟩, fun ⟨_, ha, h⟩ => by cases ha; exact h⟩

theorem map_eq_ok {x : Except ε α} {f : α → β} {b : β} :
    (f <$> x) = .ok b ↔ ∃ a, x = .ok a ∧ f a = b := by
  cases x with
  | error e => exact ⟨fun h => (nomatch h), fun ⟨_, h, _⟩ => (nomatch h)⟩
  | ok a =>
      refine ⟨fun h => ⟨a, rfl, Except.ok.inj h⟩, fun ⟨_, ha, h⟩ => ?_⟩
      cases ha
      exact congrArg Except.ok h

/-- An outcome whose value is there is a success. -/
theorem eq_ok_of_toOption {x : Except ε α} {a : α} (h : x.toOption = some a) : x = .ok a := by
  cases x with
  | error e => cases h
  | ok b => exact congrArg Except.ok (Option.some.inj h)

end Checks

/-! ### Operations on a state -/

section Operations

variable {σ α β : Type}

/-- What an operation answers in a state, and the state it leaves. -/
def perform (action : Access (StateM σ) α) (s : σ) : Except AccessError α × σ :=
  StateT.run (ExceptT.run action) s

theorem perform_pure (a : α) (s : σ) : perform (pure a) s = (.ok a, s) := rfl

/-- What follows an operation runs in the state it leaves, unless it failed. -/
theorem perform_bind (x : Access (StateM σ) α) (f : α → Access (StateM σ) β) (s : σ) :
    perform (x >>= f) s =
      match perform x s with
      | (.ok a, s') => perform (f a) s'
      | (.error e, s') => (.error e, s') := by
  show (StateT.bind (ExceptT.run x) (ExceptT.bindCont f)) s = _
  unfold StateT.bind
  show (match (StateT.run (ExceptT.run x) s) with | (a, s') => ExceptT.bindCont f a s') = _
  unfold perform
  rcases StateT.run (ExceptT.run x) s with ⟨_ | _, s'⟩ <;> rfl

theorem perform_bind_ok {x : Access (StateM σ) α} {f : α → Access (StateM σ) β} {s s' : σ} {a : α}
    (h : perform x s = (.ok a, s')) : perform (x >>= f) s = perform (f a) s' := by
  rw [perform_bind, h]

theorem perform_bind_error {x : Access (StateM σ) α} {f : α → Access (StateM σ) β} {s s' : σ}
    {e : AccessError} (h : perform x s = (.error e, s')) :
    perform (x >>= f) s = (.error e, s') := by
  rw [perform_bind, h]

/-- What is made of the value of an operation does not change what the operation does. -/
theorem perform_bind_pure (x : Access (StateM σ) α) (f : α → β) (s : σ) :
    perform (x >>= fun a => pure (f a)) s = ((perform x s).1.map f, (perform x s).2) := by
  rw [perform_bind]
  rcases perform x s with ⟨e | a, s'⟩ <;> rfl

/-- An attempt answers the outcome as a value and so never fails. -/
theorem perform_attempt (x : Access (StateM σ) α) (s : σ) :
    perform (attempt x) s = (.ok (perform x s).1, (perform x s).2) := rfl

/-- What handles a failure runs in the state that the failure leaves. -/
theorem perform_tryCatch (x : Access (StateM σ) α) (handle : AccessError → Access (StateM σ) α)
    (s : σ) :
    perform (tryCatch x handle) s =
      match perform x s with
      | (.ok a, s') => (.ok a, s')
      | (.error e, s') => perform (handle e) s' := by
  unfold perform ExceptT.run StateT.run
  simp only [tryCatch, tryCatchThe, MonadExceptOf.tryCatch, ExceptT.tryCatch, ExceptT.mk, bind,
    StateT.bind]
  rcases x s with ⟨_ | _, s'⟩ <;> rfl

/-- A check leaves the state alone. -/
theorem perform_liftFault {ε : Type} (wrap : ε → AccessError) (check : Except ε α) (s : σ) :
    perform (liftFault wrap check) s = (check.mapError wrap, s) := by
  cases check <;> rfl

end Operations

end StreamStore
