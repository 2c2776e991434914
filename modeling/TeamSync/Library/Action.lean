/-! Actions on a state that may throw. What an action has changed before it
throws stays changed.
-/

set_option autoImplicit false

namespace Effects

abbrev Action (E S : Type) := ExceptT E (StateM S)

variable {E S A B : Type}

namespace Action

def exec (x : Action E S A) (s : S) : Except E A × S := x.run.run s

@[simp] theorem exec_modify (f : S → S) (s : S) :
    exec (modify f : Action E S Unit) s = (.ok (), f s) := rfl

theorem exec_bind (x : Action E S A) (f : A → Action E S B) (s : S) :
    exec (x >>= f) s = match exec x s with
      | (.ok a, mid) => exec (f a) mid
      | (.error e, mid) => (.error e, mid) := by
  change (ExceptT.bindCont f (x.run.run s).1).run (x.run.run s).2 = _
  unfold exec
  cases x.run.run s with
  | mk out mid => cases out <;> rfl

theorem exec_tryCatch (x : Action E S A) (handler : E → Action E S A) (s : S) :
    exec (tryCatch x handler) s = match exec x s with
      | (.ok a, mid) => (.ok a, mid)
      | (.error e, mid) => exec (handler e) mid := by
  change ((match (x.run.run s).1 with
    | .ok a => pure (.ok a)
    | .error e => (handler e).run) : StateM S (Except E A)).run (x.run.run s).2 = _
  unfold exec
  cases x.run.run s with
  | mk out mid => cases out <;> rfl

theorem exec_bind_of_ok {x : Action E S A} {f : A → Action E S B} {s mid : S} {a : A}
    (first : exec x s = (.ok a, mid)) : exec (x >>= f) s = exec (f a) mid := by
  rw [exec_bind, first]

theorem exec_bind_of_error {x : Action E S A} {f : A → Action E S B} {s mid : S} {e : E}
    (first : exec x s = (.error e, mid)) : exec (x >>= f) s = (.error e, mid) := by
  rw [exec_bind, first]

theorem exec_tryCatch_of_ok {x : Action E S A} {handler : E → Action E S A} {s mid : S} {a : A}
    (body : exec x s = (.ok a, mid)) : exec (tryCatch x handler) s = (.ok a, mid) := by
  rw [exec_tryCatch, body]

theorem exec_tryCatch_of_error {x : Action E S A} {handler : E → Action E S A} {s mid : S} {e : E}
    (body : exec x s = (.error e, mid)) : exec (tryCatch x handler) s = exec (handler e) mid := by
  rw [exec_tryCatch, body]

theorem exec_discard (x : Action E S A) (s : S) :
    exec (discard x) s = ((exec x s).1.map fun _ => (), (exec x s).2) := by
  change exec (x >>= fun _ => pure ()) s = _
  rw [exec_bind]
  rcases exec x s with ⟨e | a, mid⟩ <;> rfl

theorem exec_discard_of_ok {x : Action E S A} {s mid : S} {a : A}
    (body : exec x s = (.ok a, mid)) : exec (discard x) s = (.ok (), mid) := by
  rw [exec_discard, body]
  rfl

theorem exec_discard_of_error {x : Action E S A} {s mid : S} {e : E}
    (body : exec x s = (.error e, mid)) : exec (discard x) s = (.error e, mid) := by
  rw [exec_discard, body]
  rfl

/-- Started and not awaited: nobody gets what it throws. -/
def detached (x : Action E S A) : Action E S Unit :=
  tryCatch (discard x) fun _ => pure ()

@[simp] theorem exec_detached (x : Action E S A) (s : S) :
    exec (detached x) s = (.ok (), (exec x s).2) := by
  rw [detached, exec_tryCatch, exec_discard]
  rcases exec x s with ⟨e | a, mid⟩ <;> rfl

variable {F T : Type}

def within (part : S → T) (replace : S → T → S) (wrap : E → F) (x : Action E T A) :
    Action F S A := do
  let s ← getThe S
  set (replace s (exec x (part s)).2)
  match (exec x (part s)).1 with
  | .ok a => pure a
  | .error e => throw (wrap e)

theorem exec_within (part : S → T) (replace : S → T → S) (wrap : E → F) (x : Action E T A) (s : S) :
    exec (within part replace wrap x) s =
      ((exec x (part s)).1.mapError wrap, replace s (exec x (part s)).2) := by
  unfold within
  rw [exec_bind_of_ok (rfl : exec (getThe S) s = _),
    exec_bind_of_ok (rfl : exec (set (replace s (exec x (part s)).2)) s = _)]
  cases (exec x (part s)).1 <;> rfl

end Action

end Effects
