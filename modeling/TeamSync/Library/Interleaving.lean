import TeamSync.Library.Execution

/-! Programs that share one service, one call at a time.

The trace records every exchange, newest first. A guard restricts the steps of
a run by looking at the configuration before the step and at who moves.
-/

set_option autoImplicit false

namespace Effects

structure Config (ι : Type) (I : Interface) (E S A : Type) where
  store : S
  pool : ι → Process I E A
  trace : List (ι × Exchange I E)

namespace Config

variable {ι : Type} [DecidableEq ι] {I : Interface} {E S A : Type}

def start (store : S) (pool : ι → Process I E A) : Config ι I E S A := ⟨store, pool, []⟩

def AllEnded (c : Config ι I E S A) : Prop := ∀ i, (c.pool i).Ended

def own (c : Config ι I E S A) (i : ι) : List (Exchange I E) :=
  ((c.trace.filter fun entry => entry.1 = i).map Prod.snd).reverse

@[simp] theorem mem_own {c : Config ι I E S A} {i : ι} {x : Exchange I E} :
    x ∈ c.own i ↔ (i, x) ∈ c.trace := by
  simp [own]

def step (h : Handler I E S) (c : Config ι I E S A) (i : ι) (choice : h.Choice) :
    Option (Config ι I E S A) :=
  match c.pool i with
  | .call op next => (h.exec choice op c.store).map fun (reply, store) =>
      ⟨store, Function.update c.pool i (next reply), (i, ⟨op, reply⟩) :: c.trace⟩
  | _ => none

def run (h : Handler I E S) (c : Config ι I E S A) : List (ι × h.Choice) → Option (Config ι I E S A)
  | [] => some c
  | (i, choice) :: rest => (c.step h i choice).bind fun c => c.run h rest

variable {h : Handler I E S}

/-- Everything a step can do. -/
theorem step_cases {c final : Config ι I E S A} {i : ι} {choice : h.Choice}
    (stepped : c.step h i choice = some final) :
    ∃ op next reply, c.pool i = .call op next ∧ h.exec choice op c.store =
      some (reply, final.store) ∧
      final.pool = Function.update c.pool i (next reply) ∧
        final.trace = (i, ⟨op, reply⟩) :: c.trace := by
  cases head : c.pool i with
  | done a => simp [step, head] at stepped
  | raise e => simp [step, head] at stepped
  | call op next =>
    simp only [step, head, Option.map_eq_some_iff] at stepped
    obtain ⟨⟨reply, store⟩, answered, rfl⟩ := stepped
    exact ⟨op, next, reply, rfl, answered, rfl, rfl⟩

theorem step_of_call {c final : Config ι I E S A} {i : ι} {choice : h.Choice} {op : I.Op}
    {next : Reply I E op → Process I E A} (head : c.pool i = .call op next)
    (stepped : c.step h i choice = some final) :
    ∃ reply, h.exec choice op c.store = some (reply, final.store) ∧
      final.pool = Function.update c.pool i (next reply) ∧
        final.trace = (i, ⟨op, reply⟩) :: c.trace := by
  obtain ⟨op', next', reply, head', answered, pool, trace⟩ := step_cases stepped
  cases head.symm.trans head'
  exact ⟨reply, answered, pool, trace⟩

theorem trace_subset {c final : Config ι I E S A} {i : ι} {choice : h.Choice}
    (stepped : c.step h i choice = some final) : c.trace ⊆ final.trace := by
  obtain ⟨op, next, reply, -, -, -, trace⟩ := step_cases stepped
  rw [trace]
  exact List.subset_cons_self _ _

theorem step_faulty {c final : Config ι I E S A} {i : ι} {choice : h.Choice}
    (stepped : c.step h i choice = some final) :
    c.step h.faulty i (.inr choice) = some final := stepped

def Along (h : Handler I E S) (guard : Config ι I E S A → ι → Prop) (c : Config ι I E S A) :
    List (ι × h.Choice) → Prop
  | [] => True
  | (i, choice) :: rest =>
    guard c i ∧ ∀ next, c.step h i choice = some next → next.Along h guard rest

theorem Along.cons {guard : Config ι I E S A → ι → Prop} {c next : Config ι I E S A} {i : ι}
    {choice : h.Choice} {rest : List (ι × h.Choice)} (stepped : c.step h i choice = some next)
    (allowed : guard c i) (along : next.Along h guard rest) :
    c.Along h guard ((i, choice) :: rest) :=
  ⟨allowed, fun _ stepped' => by cases stepped.symm.trans stepped'; exact along⟩

def anyStep : Config ι I E S A → ι → Prop := fun _ _ => True

theorem along_anyStep (c : Config ι I E S A) (schedule : List (ι × h.Choice)) :
    c.Along h anyStep schedule := by
  induction schedule generalizing c with
  | nil => trivial
  | cons entry rest ih => exact ⟨trivial, fun next _ => ih next⟩

end Config

/-- Runs all of whose steps meet the guard. -/
inductive Reaches {ι : Type} [DecidableEq ι] {I : Interface} {E S A : Type} (h : Handler I E S)
    (guard : Config ι I E S A → ι → Prop) (c : Config ι I E S A) : Config ι I E S A → Prop where
  | refl : Reaches h guard c c
  | step {mid final : Config ι I E S A} {i : ι} {choice : h.Choice} : Reaches h guard c mid →
      guard mid i → mid.step h i choice = some final → Reaches h guard c final

namespace Reaches

variable {ι : Type} [DecidableEq ι] {I : Interface} {E S A : Type} {h : Handler I E S}
  {guard : Config ι I E S A → ι → Prop} {c mid final : Config ι I E S A}

theorem trans (first : Reaches h guard c mid) (rest : Reaches h guard mid final) :
    Reaches h guard c final := by
  induction rest with
  | refl => exact first
  | step _ allowed stepped ih => exact .step ih allowed stepped

theorem weaken {weaker : Config ι I E S A → ι → Prop} (reach : Reaches h guard c final)
    (implies : ∀ c i, guard c i → weaker c i) : Reaches h weaker c final := by
  induction reach with
  | refl => exact .refl
  | step _ allowed stepped ih => exact .step ih (implies _ _ allowed) stepped

theorem of_run {c final : Config ι I E S A} (schedule : List (ι × h.Choice))
    (ran : c.run h schedule = some final) (along : c.Along h guard schedule) :
    Reaches h guard c final := by
  induction schedule generalizing c with
  | nil =>
    cases ran
    exact .refl
  | cons entry rest ih =>
    obtain ⟨i, choice⟩ := entry
    obtain ⟨mid, stepped, ran⟩ := Option.bind_eq_some_iff.mp ran
    exact (Reaches.step .refl along.1 stepped).trans (ih ran (along.2 mid stepped))

theorem faulty (reach : Reaches h guard c final) : Reaches h.faulty guard c final := by
  induction reach with
  | refl => exact .refl
  | @step mid final i choice _ allowed stepped ih =>
    exact @Reaches.step ι _ I E S A h.faulty guard c mid final i (.inr choice) ih allowed
      (Config.step_faulty stepped)

/-- A property of configurations kept by every guarded step. -/
theorem invariant (holds : Config ι I E S A → Prop)
    (keeps : ∀ mid final i choice, Reaches h guard c mid → holds mid → guard mid i →
      mid.step h i choice = some final → holds final)
    (reach : Reaches h guard c final) (initial : holds c) : holds final := by
  induction reach with
  | refl => exact initial
  | step before allowed stepped ih => exact keeps _ _ _ _ before ih allowed stepped

theorem trace_subset (reach : Reaches h guard c final) : c.trace ⊆ final.trace := by
  induction reach with
  | refl => exact List.Subset.refl _
  | step _ _ stepped ih => exact List.Subset.trans ih (Config.trace_subset stepped)

/-- Every program is where its own exchanges lead it. -/
theorem follows {store : S} {pool : ι → Process I E A} {final : Config ι I E S A}
    (reach : Reaches h guard (.start store pool) final) (i : ι) :
    Follows (pool i) (final.own i) (final.pool i) := by
  induction reach with
  | refl => exact .refl
  | @step mid final j choice _ _ stepped ih =>
    obtain ⟨op, next, reply, head, -, pool, trace⟩ := Config.step_cases stepped
    -- only the program that moves gains an exchange
    rw [pool, Config.own, trace]
    by_cases same : j = i
    · subst same
      rw [head] at ih
      simpa [Config.own] using ih.snoc reply
    · simpa [same, Ne.symm same, Config.own] using ih

theorem onlyCalls {allowed : I.Op → Prop} (reach : Reaches h guard c final) {i : ι}
    (only : (c.pool i).OnlyCalls allowed) : (final.pool i).OnlyCalls allowed := by
  induction reach with
  | refl => exact only
  | @step mid final j choice _ _ stepped ih =>
    obtain ⟨op, next, reply, head, -, pool, -⟩ := Config.step_cases stepped
    rw [pool]
    by_cases same : i = j
    · subst same
      rw [Function.update_self]
      rw [head] at ih
      exact ih.2 reply
    · rw [Function.update_of_ne same]
      exact ih

end Reaches

end Effects
