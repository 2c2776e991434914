import TeamSync.Library.Execution

/-! Programs whose run alone can end in one way only. -/

set_option autoImplicit false

namespace Effects

variable {I : Interface} {E S A B : Type} {h : Handler I E S}

/-- Run alone, the program ends, with this outcome and in this state, whatever the choices. -/
structure Yields (h : Handler I E S) (p : Process I E A) (s : S) (out : Except E A) (t : S) :
    Prop where
  ends : ∃ calls, Runs h p s calls out t
  only : ∀ {calls : List (Exchange I E)} {out' : Except E A} {final : S},
    Runs h p s calls out' final → out' = out ∧ final = t

/-- The program returns this and leaves the state as it is. -/
abbrev Answers (h : Handler I E S) (p : Process I E A) (s : S) (a : A) : Prop :=
  Yields h p s (.ok a) s

namespace Yields

variable {p : Process I E A} {s mid t : S} {a : A} {e : E} {out : Except E A}

theorem done (a : A) (s : S) : Answers h (.done a) s a where
  ends := ⟨[], .done⟩
  only run := ⟨(runs_done_iff.mp run).2.1, (runs_done_iff.mp run).2.2⟩

theorem raise (e : E) (s : S) : Yields h (.raise e : Process I E A) s (.error e) s where
  ends := ⟨[], .raise⟩
  only run := ⟨(runs_raise_iff.mp run).2.1, (runs_raise_iff.mp run).2.2⟩

theorem call {op : I.Op} {next : Reply I E op → Process I E A} {reply : Reply I E op}
    (choice : h.Choice) (answered : h.exec choice op s = some (reply, mid))
    (always : ∀ choice other final, h.exec choice op s = some (other, final) →
      other = reply ∧ final = mid)
    (rest : Yields h (next reply) mid out t) : Yields h (.call op next) s out t where
  ends := by
    obtain ⟨calls, ran⟩ := rest.ends
    exact ⟨_, .call answered ran⟩
  only run := by
    obtain ⟨choice, other, after, calls, replied, ran, -⟩ := runs_call_iff.mp run
    obtain ⟨rfl, rfl⟩ := always choice other after replied
    exact rest.only ran

theorem runs_bind (first : Yields h p s (.ok a) mid) {f : A → Process I E B}
    {calls : List (Exchange I E)} {out : Except E B} {final : S}
    (run : Runs h (p.bind f) s calls out final) :
    ∃ rest, Runs h (f a) mid rest out final := by
  rcases runs_bind_iff.mp run with ⟨e, failed, -⟩ | ⟨a', before, rest, mid', ran, after, -⟩
  · cases (first.only failed).1
  · obtain ⟨same, rfl⟩ := first.only ran
    cases same
    exact ⟨rest, after⟩

theorem bind {f : A → Process I E B} {out : Except E B} (first : Yields h p s (.ok a) mid)
    (rest : Yields h (f a) mid out t) : Yields h (p.bind f) s out t where
  ends := by
    obtain ⟨calls, ran⟩ := first.ends
    obtain ⟨calls', after⟩ := rest.ends
    exact ⟨calls ++ calls', runs_bind_iff.mpr (.inr ⟨a, calls, calls', mid, ran, after, rfl⟩)⟩
  only run := by
    obtain ⟨calls, after⟩ := first.runs_bind run
    exact rest.only after

theorem bind_error {f : A → Process I E B} (first : Yields h p s (.error e) t) :
    Yields h (p.bind f) s (.error e) t where
  ends := by
    obtain ⟨calls, ran⟩ := first.ends
    exact ⟨calls, runs_bind_iff.mpr (.inl ⟨e, ran, rfl⟩)⟩
  only run := by
    rcases runs_bind_iff.mp run with ⟨e', failed, rfl⟩ | ⟨a', before, rest, mid', ran, -, -⟩
    · obtain ⟨same, rfl⟩ := first.only failed
      cases same
      exact ⟨rfl, rfl⟩
    · cases (first.only ran).1

theorem rescue {handler : E → Process I E A} (body : Yields h p s (.ok a) t) :
    Yields h (p.rescue handler) s (.ok a) t where
  ends := by
    obtain ⟨calls, ran⟩ := body.ends
    exact ⟨calls, runs_rescue_iff.mpr (.inl ⟨a, ran, rfl⟩)⟩
  only run := by
    rcases runs_rescue_iff.mp run with ⟨a', ran, rfl⟩ | ⟨e, first, rest, mid, ran, -, -⟩
    · exact body.only ran
    · cases (body.only ran).1

theorem rescue_error {handler : E → Process I E A} (body : Yields h p s (.error e) mid)
    (recovered : Yields h (handler e) mid out t) : Yields h (p.rescue handler) s out t where
  ends := by
    obtain ⟨calls, ran⟩ := body.ends
    obtain ⟨calls', after⟩ := recovered.ends
    exact ⟨calls ++ calls', runs_rescue_iff.mpr (.inr ⟨e, calls, calls', mid, ran, after, rfl⟩)⟩
  only run := by
    rcases runs_rescue_iff.mp run with ⟨a, ran, -⟩ | ⟨e', first, rest, mid', ran, after, -⟩
    · cases (body.only ran).1
    · obtain ⟨same, rfl⟩ := body.only ran
      cases same
      exact recovered.only after

theorem map (body : Yields h p s (.ok a) t) (f : A → B) : Yields h (f <$> p) s (.ok (f a)) t :=
  body.bind (done (f a) t)

end Yields

theorem exists_runs (total : ∀ op s, ∃ choice reply mid, h.exec choice op s = some (reply, mid))
    (p : Process I E A) (s : S) : ∃ calls out final, Runs h p s calls out final := by
  induction p generalizing s with
  | done a => exact ⟨[], .ok a, s, .done⟩
  | raise e => exact ⟨[], .error e, s, .raise⟩
  | call op next ih =>
    obtain ⟨choice, reply, mid, answered⟩ := total op s
    obtain ⟨calls, out, final, rest⟩ := ih reply mid
    exact ⟨_, out, final, .call answered rest⟩

end Effects
