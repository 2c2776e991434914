import TeamSync.Library.Interleaving

/-! What programs promise of their calls, given what they are promised of the replies.

A contract does not mention the state of the service: a service fulfils it under
an invariant of its own, and only for the exchanges that are admitted.
-/

set_option autoImplicit false

namespace Effects

/-- The calls that a program may make, and the replies that it can rely on. -/
structure Contract (I : Interface) (E : Type) where
  guarantee : I.Op → Prop
  rely : (op : I.Op) → Reply I E op → Prop

variable {I : Interface} {E S A B : Type} {contract : Contract I E}

namespace Process

/-- As long as the replies can be relied on, every call is guaranteed and what
is returned is as promised. -/
def Respects (contract : Contract I E) (returns : A → Prop) : Process I E A → Prop
  | .done a => returns a
  | .raise _ => True
  | .call op next => contract.guarantee op ∧
    ∀ reply, contract.rely op reply → (next reply).Respects contract returns

variable {returns : A → Prop}

theorem Respects.bind {p : Process I E A} {f : A → Process I E B} {final : B → Prop}
    (first : p.Respects contract returns)
    (rest : ∀ a, returns a → (f a).Respects contract final) :
    (p.bind f).Respects contract final := by
  induction p with
  | done a => exact rest a first
  | raise e => trivial
  | call op next ih => exact ⟨first.1, fun reply relied => ih reply (first.2 reply relied)⟩

theorem Respects.map {p : Process I E A} {f : A → B} {final : B → Prop}
    (respects : p.Respects contract returns) (implies : ∀ a, returns a → final (f a)) :
    (f <$> p).Respects contract final :=
  .bind respects implies

theorem Respects.rescue {p : Process I E A} {handler : E → Process I E A}
    (first : p.Respects contract returns)
    (raised : ∀ e, (handler e).Respects contract returns) :
    (p.rescue handler).Respects contract returns := by
  induction p with
  | done a => exact first
  | raise e => exact raised e
  | call op next ih => exact ⟨first.1, fun reply relied => ih reply (first.2 reply relied)⟩

theorem Respects.ofExcept {read : Except E A} (promised : ∀ a, read = .ok a → returns a) :
    (Process.ofExcept read : Process I E A).Respects contract returns := by
  cases read with
  | ok a => exact promised a rfl
  | error e => trivial

theorem Respects.perform {op : I.Op} {returns : I.Answer op → Prop}
    (guaranteed : contract.guarantee op)
    (promised : ∀ answer, contract.rely op (.ok answer) → returns answer) :
    (Process.perform op : Process I E (I.Answer op)).Respects contract returns := by
  refine ⟨guaranteed, fun reply relied => .ofExcept fun answer same => ?_⟩
  subst same
  exact promised answer relied

theorem Respects.of_onlyCalls {p : Process I E A} (only : p.OnlyCalls contract.guarantee) :
    p.Respects contract fun _ => True := by
  induction p with
  | done a => trivial
  | raise e => trivial
  | call op next ih => exact ⟨only.1, fun reply _ => ih reply (only.2 reply)⟩

theorem Respects.onlyCalls {p : Process I E A} (respects : p.Respects contract returns)
    (relied : ∀ op reply, contract.rely op reply) : p.OnlyCalls contract.guarantee := by
  induction p with
  | done a => trivial
  | raise e => trivial
  | call op next ih =>
    exact ⟨respects.1, fun reply => ih reply (respects.2 reply (relied op reply))⟩

end Process

/-- Under the invariant, the admitted exchanges of guaranteed calls keep the
invariant, and their replies can be relied on. -/
def Handler.Fulfils (h : Handler I E S) (contract : Contract I E) (invariant : S → Prop)
    (admitted : Exchange I E → Prop) : Prop :=
  ∀ choice op s reply final, invariant s → contract.guarantee op → admitted ⟨op, reply⟩ →
    h.exec choice op s = some (reply, final) → contract.rely op reply ∧ invariant final

variable {h : Handler I E S} {invariant : S → Prop} {admitted : Exchange I E → Prop}
  {returns : A → Prop}

theorem Runs.respects {p : Process I E A} {s final : S} {calls : List (Exchange I E)}
    {out : Except E A} (run : Runs h p s calls out final)
    (fulfils : h.Fulfils contract invariant admitted) (admits : ∀ x ∈ calls, admitted x)
    (respects : p.Respects contract returns) (initial : invariant s) :
    invariant final ∧ ∀ a, out = .ok a → returns a := by
  induction run with
  | done =>
    refine ⟨initial, fun a same => ?_⟩
    cases same
    exact respects
  | raise => exact ⟨initial, fun a same => by cases same⟩
  | call answered _ ih =>
    obtain ⟨first, rest⟩ := List.forall_mem_cons.mp admits
    obtain ⟨relied, kept⟩ := fulfils _ _ _ _ _ initial respects.1 first answered
    exact ih rest (respects.2 _ relied) kept

section
variable {ι : Type} [DecidableEq ι] {guard : Config ι I E S A → ι → Prop}
  {c mid final : Config ι I E S A}

/-- Everyone is protected from the others by the contract alone. -/
theorem Config.step_respects {i : ι} {choice : h.Choice}
    (stepped : mid.step h i choice = some final)
    (fulfils : h.Fulfils contract invariant admitted) (admits : ∀ x ∈ final.trace, admitted x.2)
    (kept : invariant mid.store) (respects : ∀ i, (mid.pool i).Respects contract returns) :
    invariant final.store ∧ ∀ i, (final.pool i).Respects contract returns := by
  obtain ⟨op, next, reply, head, answered, pool, trace⟩ := Config.step_cases stepped
  have own := respects i
  rw [head] at own
  have permitted : admitted ⟨op, reply⟩ :=
    admits (i, ⟨op, reply⟩) (by rw [trace]; exact List.mem_cons_self)
  obtain ⟨relied, kept⟩ := fulfils _ _ _ _ _ kept own.1 permitted answered
  refine ⟨kept, fun j => ?_⟩
  rw [pool]
  by_cases same : j = i
  · subst same
    rw [Function.update_self]
    exact own.2 reply relied
  · rw [Function.update_of_ne same]
    exact respects j

theorem Reaches.respects (reach : Reaches h guard c final)
    (fulfils : h.Fulfils contract invariant admitted) (admits : ∀ x ∈ final.trace, admitted x.2)
    (initial : invariant c.store) (respects : ∀ i, (c.pool i).Respects contract returns) :
    invariant final.store ∧ ∀ i, (final.pool i).Respects contract returns := by
  induction reach with
  | refl => exact ⟨initial, respects⟩
  | step _ _ stepped ih =>
    have earlier := ih fun x member => admits x (Config.trace_subset stepped member)
    exact Config.step_respects stepped fulfils admits earlier.1 earlier.2

end

end Effects
