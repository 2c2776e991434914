import TeamSync.Library.Process

/-! One program run alone against a service.

A service is a function from a choice of its own, a call and a state to the
reply and the next state. The choice stands for what the caller does not
control; a service refuses a choice by giving no result.
-/

set_option autoImplicit false

namespace Effects

structure Handler (I : Interface) (E S : Type) where
  Choice : Type
  exec : Choice → (op : I.Op) → S → Option (Reply I E op × S)

variable {I : Interface} {E S A B : Type}

/-- A call together with the reply it got. -/
structure Exchange (I : Interface) (E : Type) where
  op : I.Op
  reply : Reply I E op

def Process.runAlone (h : Handler I E S) :
    Process I E A → List h.Choice → S → Option (List (Exchange I E) × Except E A × S)
  | .done a, _, s => some ([], .ok a, s)
  | .raise e, _, s => some ([], .error e, s)
  | .call _ _, [], _ => none
  | .call op next, choice :: rest, s =>
    (h.exec choice op s).bind fun (reply, mid) =>
      ((next reply).runAlone h rest mid).map fun (calls, out, final) =>
        (⟨op, reply⟩ :: calls, out, final)

/-- The same service over a network: any call may also fail, without effect. -/
def Handler.faulty (h : Handler I E S) : Handler I E S where
  Choice := E ⊕ h.Choice
  exec choice op state :=
    match choice with
    | .inl e => some (.error e, state)
    | .inr choice => h.exec choice op state

/-- The listed exchanges lead the program to what is left of it. -/
inductive Follows : Process I E A → List (Exchange I E) → Process I E A → Prop where
  | refl {p : Process I E A} : Follows p [] p
  | call {op : I.Op} {next : Reply I E op → Process I E A} {reply : Reply I E op}
      {rest : List (Exchange I E)} {left : Process I E A} :
      Follows (next reply) rest left → Follows (.call op next) (⟨op, reply⟩ :: rest) left

theorem Follows.snoc {p : Process I E A} {op : I.Op} {next : Reply I E op → Process I E A}
    {exchanges : List (Exchange I E)} (follows : Follows p exchanges (.call op next))
    (reply : Reply I E op) :
    Follows p (exchanges ++ [⟨op, reply⟩]) (next reply) := by
  generalize left : Process.call op next = q at follows
  induction follows with
  | refl =>
    cases left
    exact .call .refl
  | call _ ih => exact .call (ih left)

theorem Follows.of_call {op : I.Op} {next : Reply I E op → Process I E A} {left : Process I E A}
    {exchanges : List (Exchange I E)} (follows : Follows (.call op next) exchanges left)
    (ended : left.Ended) :
    ∃ reply rest, Follows (next reply) rest left ∧ exchanges = ⟨op, reply⟩ :: rest := by
  cases follows with
  | refl => exact ended.elim
  | call rest => exact ⟨_, _, rest, rfl⟩

theorem Follows.of_bind {p : Process I E A} {f : A → Process I E B} {b : B}
    {exchanges : List (Exchange I E)} (follows : Follows (p.bind f) exchanges (.done b)) :
    ∃ a first rest, Follows p first (.done a) ∧ Follows (f a) rest (.done b) ∧
      exchanges = first ++ rest := by
  induction p generalizing exchanges with
  | done a => exact ⟨a, [], exchanges, .refl, follows, rfl⟩
  | raise e => cases follows
  | call op next ih =>
    obtain ⟨reply, others, after, rfl⟩ := Follows.of_call follows trivial
    obtain ⟨a, first, rest, before, last, rfl⟩ := ih reply after
    exact ⟨a, _, rest, .call before, last, rfl⟩

theorem Follows.of_bind_raise {p : Process I E A} {f : A → Process I E B} {e : E}
    {exchanges : List (Exchange I E)} (follows : Follows (p.bind f) exchanges (.raise e)) :
    Follows p exchanges (.raise e) ∨ ∃ a first rest, Follows p first (.done a) ∧
      Follows (f a) rest (.raise e) ∧ exchanges = first ++ rest := by
  induction p generalizing exchanges with
  | done a => exact .inr ⟨a, [], exchanges, .refl, follows, rfl⟩
  | raise e =>
    cases follows
    exact .inl .refl
  | call op next ih =>
    obtain ⟨reply, others, after, rfl⟩ := Follows.of_call follows trivial
    rcases ih reply after with raised | ⟨a, first, rest, before, last, rfl⟩
    · exact .inl (.call raised)
    · exact .inr ⟨a, _, rest, .call before, last, rfl⟩

theorem Follows.of_rescue {p : Process I E A} {handler : E → Process I E A} {a : A}
    {exchanges : List (Exchange I E)} (follows : Follows (p.rescue handler) exchanges (.done a)) :
    Follows p exchanges (.done a) ∨ ∃ e first rest, Follows p first (.raise e) ∧
      Follows (handler e) rest (.done a) ∧ exchanges = first ++ rest := by
  induction p generalizing exchanges with
  | done a => exact .inl follows
  | raise e => exact .inr ⟨e, [], exchanges, .refl, follows, rfl⟩
  | call op next ih =>
    obtain ⟨reply, others, after, rfl⟩ := Follows.of_call follows trivial
    rcases ih reply after with ended | ⟨e, first, rest, raised, last, rfl⟩
    · exact .inl (.call ended)
    · exact .inr ⟨e, _, rest, .call raised, last, rfl⟩

theorem Follows.onlyCalls {allowed : I.Op → Prop} {p left : Process I E A}
    {exchanges : List (Exchange I E)} (follows : Follows p exchanges left)
    (only : p.OnlyCalls allowed) : ∀ x ∈ exchanges, allowed x.op := by
  induction follows with
  | refl =>
    intro x member
    cases member
  | call _ ih => exact List.forall_mem_cons.mpr ⟨only.1, ih (only.2 _)⟩

/-- The program runs from the first state to the second, makes the listed
calls in this order and ends with the outcome. -/
inductive Runs (h : Handler I E S) : Process I E A → S → List (Exchange I E) → Except E A → S →
    Prop where
  | done {a : A} {s : S} : Runs h (.done a) s [] (.ok a) s
  | raise {e : E} {s : S} : Runs h (.raise e) s [] (.error e) s
  | call {op : I.Op} {next : Reply I E op → Process I E A} {choice : h.Choice}
      {reply : Reply I E op} {s mid final : S} {calls : List (Exchange I E)} {out : Except E A} :
      h.exec choice op s = some (reply, mid) → Runs h (next reply) mid calls out final →
      Runs h (.call op next) s (⟨op, reply⟩ :: calls) out final

variable {h : Handler I E S}

@[simp] theorem runs_done_iff {a : A} {s final : S} {calls : List (Exchange I E)}
    {out : Except E A} :
    Runs h (.done a) s calls out final ↔ calls = [] ∧ out = .ok a ∧ final = s := by
  constructor
  · rintro ⟨⟩
    exact ⟨rfl, rfl, rfl⟩
  · rintro ⟨rfl, rfl, rfl⟩
    exact .done

@[simp] theorem runs_raise_iff {e : E} {s final : S} {calls : List (Exchange I E)}
    {out : Except E A} :
    Runs h (.raise e) s calls out final ↔ calls = [] ∧ out = .error e ∧ final = s := by
  constructor
  · rintro ⟨⟩
    exact ⟨rfl, rfl, rfl⟩
  · rintro ⟨rfl, rfl, rfl⟩
    exact .raise

theorem runs_call_iff {op : I.Op} {next : Reply I E op → Process I E A} {s final : S}
    {calls : List (Exchange I E)} {out : Except E A} :
    Runs h (.call op next) s calls out final ↔
      ∃ choice reply mid rest, h.exec choice op s = some (reply, mid) ∧
        Runs h (next reply) mid rest out final ∧ calls = ⟨op, reply⟩ :: rest := by
  constructor
  · intro run
    cases run with
    | call answered rest => exact ⟨_, _, _, _, answered, rest, rfl⟩
  · rintro ⟨choice, reply, mid, rest, answered, run, rfl⟩
    exact .call answered run

theorem Runs.of_runAlone {p : Process I E A} {s final : S} {calls : List (Exchange I E)}
    {out : Except E A}
    (choices : List h.Choice) (ran : p.runAlone h choices s = some (calls, out, final)) :
    Runs h p s calls out final := by
  induction p generalizing choices s calls with
  | done a =>
    cases ran
    exact .done
  | raise e =>
    cases ran
    exact .raise
  | call op next ih =>
    cases choices with
    | nil => cases ran
    | cons choice rest =>
      obtain ⟨⟨reply, mid⟩, answered, ran⟩ := Option.bind_eq_some_iff.mp ran
      -- the rest of the run uses the choices that are left
      obtain ⟨⟨tail, out', final'⟩, ran, same⟩ := Option.map_eq_some_iff.mp ran
      cases same
      exact .call answered (ih reply rest ran)

theorem runs_bind_iff {p : Process I E A} {f : A → Process I E B} {s final : S}
    {calls : List (Exchange I E)} {out : Except E B} :
    Runs h (p.bind f) s calls out final ↔
      (∃ e, Runs h p s calls (.error e) final ∧ out = .error e) ∨
      ∃ a first rest mid, Runs h p s first (.ok a) mid ∧ Runs h (f a) mid rest out final ∧
        calls = first ++ rest := by
  induction p generalizing s calls with
  | done a =>
    simp only [Process.bind_done, runs_done_iff]
    constructor
    · intro run
      exact .inr ⟨a, [], calls, s, ⟨rfl, rfl, rfl⟩, run, rfl⟩
    · rintro (⟨_, ⟨-, same, -⟩, -⟩ | ⟨_, _, _, _, ⟨rfl, same, rfl⟩, run, rfl⟩)
      · cases same
      · cases same
        exact run
  | raise e =>
    simp only [Process.bind_raise, runs_raise_iff]
    constructor
    · rintro ⟨rfl, rfl, rfl⟩
      exact .inl ⟨e, ⟨rfl, rfl, rfl⟩, rfl⟩
    · rintro (⟨_, ⟨rfl, same, rfl⟩, rfl⟩ | ⟨_, _, _, _, ⟨-, same, -⟩, -, -⟩)
      · cases same
        exact ⟨rfl, rfl, rfl⟩
      · cases same
  | call op next ih =>
    simp only [Process.bind_call, runs_call_iff, ih]
    constructor
    · rintro ⟨choice, reply, mid, rest, answered,
        ⟨e, run, rfl⟩ | ⟨a, first, tail, last, run, after, rfl⟩, rfl⟩
      · exact .inl ⟨e, ⟨choice, reply, mid, rest, answered, run, rfl⟩, rfl⟩
      · exact .inr ⟨a, _, tail, last, ⟨choice, reply, mid, first, answered, run, rfl⟩, after, rfl⟩
    · rintro (⟨e, ⟨choice, reply, mid, rest, answered, run, rfl⟩, rfl⟩ |
        ⟨a, _, tail, last, ⟨choice, reply, mid, first, answered, run, rfl⟩, after, rfl⟩)
      · exact ⟨choice, reply, mid, rest, answered, .inl ⟨e, run, rfl⟩, rfl⟩
      · exact ⟨choice, reply, mid, _, answered, .inr ⟨a, first, tail, last, run, after, rfl⟩, rfl⟩

theorem runs_map_iff {f : A → B} {p : Process I E A} {s final : S} {calls : List (Exchange I E)}
    {out : Except E B} :
    Runs h (f <$> p) s calls out final ↔ ∃ o, Runs h p s calls o final ∧ out = o.map f := by
  constructor
  · intro run
    rcases runs_bind_iff.mp run with ⟨e, ran, rfl⟩ | ⟨a, first, rest, mid, ran, after, rfl⟩
    · exact ⟨_, ran, rfl⟩
    · obtain ⟨rfl, rfl, rfl⟩ := runs_done_iff.mp after
      rw [List.append_nil]
      exact ⟨_, ran, rfl⟩
  · rintro ⟨o, run, rfl⟩
    cases o with
    | error e => exact runs_bind_iff.mpr (.inl ⟨e, run, rfl⟩)
    | ok a =>
      exact runs_bind_iff.mpr (.inr ⟨a, calls, [], final, run, .done, (List.append_nil _).symm⟩)

theorem Runs.of_map {f : A → B} {p : Process I E A} {s final : S} {calls : List (Exchange I E)}
    {out : Except E B} (run : Runs h (f <$> p) s calls out final) :
    ∃ out, Runs h p s calls out final := by
  obtain ⟨o, ran, -⟩ := runs_map_iff.mp run
  exact ⟨o, ran⟩

theorem Runs.map {p : Process I E A} {s final : S} {calls : List (Exchange I E)} {out : Except E A}
    (run : Runs h p s calls out final) (f : A → B) : ∃ out, Runs h (f <$> p) s calls out final :=
  ⟨_, runs_map_iff.mpr ⟨out, run, rfl⟩⟩

theorem runs_rescue_iff {p : Process I E A} {handler : E → Process I E A} {s final : S}
    {calls : List (Exchange I E)} {out : Except E A} :
    Runs h (p.rescue handler) s calls out final ↔
      (∃ a, Runs h p s calls (.ok a) final ∧ out = .ok a) ∨
      ∃ e first rest mid, Runs h p s first (.error e) mid ∧ Runs h (handler e) mid rest out final ∧
        calls = first ++ rest := by
  induction p generalizing s calls with
  | done a =>
    simp only [Process.rescue_done, runs_done_iff]
    constructor
    · rintro ⟨rfl, rfl, rfl⟩
      exact .inl ⟨a, ⟨rfl, rfl, rfl⟩, rfl⟩
    · rintro (⟨_, ⟨rfl, same, rfl⟩, rfl⟩ | ⟨_, _, _, _, ⟨-, same, -⟩, -, -⟩)
      · exact ⟨rfl, same, rfl⟩
      · cases same
  | raise e =>
    simp only [Process.rescue_raise, runs_raise_iff]
    constructor
    · intro run
      exact .inr ⟨e, [], calls, s, ⟨rfl, rfl, rfl⟩, run, rfl⟩
    · rintro (⟨_, ⟨-, same, -⟩, -⟩ | ⟨_, _, _, _, ⟨rfl, same, rfl⟩, run, rfl⟩)
      · cases same
      · cases same
        exact run
  | call op next ih =>
    simp only [Process.rescue_call, runs_call_iff, ih]
    constructor
    · rintro ⟨choice, reply, mid, rest, answered,
        ⟨a, run, rfl⟩ | ⟨e, first, tail, last, run, after, rfl⟩, rfl⟩
      · exact .inl ⟨a, ⟨choice, reply, mid, rest, answered, run, rfl⟩, rfl⟩
      · exact .inr ⟨e, _, tail, last, ⟨choice, reply, mid, first, answered, run, rfl⟩, after, rfl⟩
    · rintro (⟨a, ⟨choice, reply, mid, rest, answered, run, rfl⟩, rfl⟩ |
        ⟨e, _, tail, last, ⟨choice, reply, mid, first, answered, run, rfl⟩, after, rfl⟩)
      · exact ⟨choice, reply, mid, rest, answered, .inl ⟨a, run, rfl⟩, rfl⟩
      · exact ⟨choice, reply, mid, _, answered, .inr ⟨e, first, tail, last, run, after, rfl⟩, rfl⟩

theorem runs_rethrow_iff {p : Process I E A} {f : E → E} {s final : S} {calls : List (Exchange I E)}
    {out : Except E A} :
    Runs h (p.rescue fun e => .raise (f e)) s calls out final ↔
      (∃ a, Runs h p s calls (.ok a) final ∧ out = .ok a) ∨
      ∃ e, Runs h p s calls (.error e) final ∧ out = .error (f e) := by
  rw [runs_rescue_iff]
  refine or_congr_right ⟨?_, ?_⟩
  · rintro ⟨e, first, rest, mid, run, raised, rfl⟩
    obtain ⟨rfl, rfl, rfl⟩ := runs_raise_iff.mp raised
    rw [List.append_nil]
    exact ⟨e, run, rfl⟩
  · rintro ⟨e, run, rfl⟩
    exact ⟨e, calls, [], final, run, .raise, (List.append_nil _).symm⟩

theorem Runs.faulty {p : Process I E A} {s final : S} {calls : List (Exchange I E)}
    {out : Except E A} (run : Runs h p s calls out final) : Runs h.faulty p s calls out final := by
  induction run with
  | done => exact .done
  | raise => exact .raise
  | @call _ _ choice _ _ _ _ _ _ answered _ ih =>
    exact @Runs.call I E _ A h.faulty _ _ (.inr choice) _ _ _ _ _ _ answered ih

end Effects
