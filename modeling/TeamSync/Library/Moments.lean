import TeamSync.Library.Interleaving

/-! The moments of a run at which its exchanges were made. -/

set_option autoImplicit false

namespace Effects

variable {ι : Type} [DecidableEq ι] {I : Interface} {E S A : Type} {h : Handler I E S}
  {guard : Config ι I E S A → ι → Prop} {c final : Config ι I E S A}

theorem Reaches.moment (reach : Reaches h guard c final) {i : ι} {x : Exchange I E}
    (made : (i, x) ∈ final.trace) : (i, x) ∈ c.trace ∨
      ∃ mid next choice, Reaches h guard c mid ∧ Reaches h guard mid next ∧
        Reaches h guard next final ∧ h.exec choice x.op mid.store = some (x.reply, next.store) ∧
        next.trace = (i, x) :: mid.trace := by
  induction reach with
  | refl => exact .inl made
  | @step mid final j choice before allowed stepped ih =>
    obtain ⟨op, rest, reply, -, answered, -, trace⟩ := Config.step_cases stepped
    rw [trace] at made
    rcases List.mem_cons.mp made with same | earlier
    · cases same
      exact .inr ⟨mid, final, choice, before, .step .refl allowed stepped, .refl, answered, trace⟩
    · rcases ih earlier with old | ⟨first, next, choice', reached, step, rest, answered', trace'⟩
      · exact .inl old
      · exact .inr ⟨first, next, choice', reached, step, .step rest allowed stepped, answered',
          trace'⟩

theorem Reaches.moment_of_start {store : S} {pool : ι → Process I E A}
    (reach : Reaches h guard (.start store pool) final) {i : ι} {x : Exchange I E}
    (made : (i, x) ∈ final.trace) :
    ∃ mid next choice, Reaches h guard (.start store pool) mid ∧ Reaches h guard mid next ∧
      Reaches h guard next final ∧ h.exec choice x.op mid.store = some (x.reply, next.store) ∧
      next.trace = (i, x) :: mid.trace := by
  rcases reach.moment made with old | moment
  · cases old
  · exact moment

/-- At some moment of the run, the state has had the property. -/
def SomeMoment (h : Handler I E S) (guard : Config ι I E S A → ι → Prop)
    (c final : Config ι I E S A) (holds : S → Prop) : Prop :=
  ∃ mid, Reaches h guard c mid ∧ Reaches h guard mid final ∧ holds mid.store

theorem SomeMoment.later {mid : Config ι I E S A} {holds : S → Prop}
    (once : SomeMoment h guard c mid holds) (rest : Reaches h guard mid final) :
    SomeMoment h guard c final holds := by
  obtain ⟨first, before, after, here⟩ := once
  exact ⟨first, before, after.trans rest, here⟩

/-- The listed exchanges of one program, each made at a moment after the one before. -/
def Moments (h : Handler I E S) (guard : Config ι I E S A → ι → Prop) (i : ι) :
    Config ι I E S A → List (Exchange I E) → Config ι I E S A → Prop
  | c, [], final => Reaches h guard c final
  | c, x :: rest, final => ∃ mid next choice, Reaches h guard c mid ∧ Reaches h guard mid next ∧
      h.exec choice x.op mid.store = some (x.reply, next.store) ∧
      next.trace = (i, x) :: mid.trace ∧ Moments h guard i next rest final

section
variable {mid : Config ι I E S A} {i : ι} {xs ys : List (Exchange I E)}

theorem Moments.reaches (moments : Moments h guard i c xs final) : Reaches h guard c final := by
  induction xs generalizing c with
  | nil => exact moments
  | cons x rest ih =>
    obtain ⟨mid, next, choice, reached, step, -, -, moments⟩ := moments
    exact (reached.trans step).trans (ih moments)

theorem Moments.head (before : Reaches h guard c mid) (moments : Moments h guard i mid ys final) :
    Moments h guard i c ys final := by
  cases ys with
  | nil => exact before.trans moments
  | cons y rest =>
    obtain ⟨first, next, choice, reached, moment⟩ := moments
    exact ⟨first, next, choice, before.trans reached, moment⟩

theorem Moments.append (moments : Moments h guard i c xs mid)
    (later : Moments h guard i mid ys final) : Moments h guard i c (xs ++ ys) final := by
  induction xs generalizing c with
  | nil => exact .head moments later
  | cons x rest ih =>
    obtain ⟨first, next, choice, reached, step, answered, trace, moments⟩ := moments
    exact ⟨first, next, choice, reached, step, answered, trace, ih moments⟩

theorem Reaches.moments (reach : Reaches h guard c final) (i : ι) :
    ∃ xs, final.own i = c.own i ++ xs ∧ Moments h guard i c xs final := by
  induction reach with
  | refl => exact ⟨[], (List.append_nil _).symm, .refl⟩
  | @step mid final j choice before allowed stepped ih =>
    obtain ⟨xs, own, moments⟩ := ih
    obtain ⟨op, next, reply, -, answered, -, trace⟩ := Config.step_cases stepped
    have last : Reaches h guard mid final := .step .refl allowed stepped
    by_cases same : j = i
    · subst same
      refine ⟨xs ++ [⟨op, reply⟩], ?_, moments.append ⟨mid, final, choice, .refl, last, answered,
        trace, .refl⟩⟩
      rw [← List.append_assoc, ← own]
      simp [Config.own, trace]
    · have others : Moments h guard i mid [] final := last
      refine ⟨xs, ?_, by simpa using moments.append others⟩
      rw [← own]
      simp [Config.own, trace, same]

/-- From the start, one program has followed its exchanges, each made at a moment. -/
theorem Reaches.followed {store : S} {pool : ι → Process I E A}
    (reach : Reaches h guard (.start store pool) final) (i : ι) :
    ∃ xs, Follows (pool i) xs (final.pool i) ∧ Moments h guard i (.start store pool) xs final := by
  obtain ⟨xs, own, moments⟩ := reach.moments i
  have same : final.own i = xs := own
  exact ⟨xs, same ▸ reach.follows i, moments⟩

end

end Effects
