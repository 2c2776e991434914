import TeamSync.Cloud.Service

/-! Documents that are added: an identifier is given to one of them only. -/

set_option autoImplicit false

namespace TeamSync

open Effects

section
variable {ι A : Type} [DecidableEq ι] {pool : ι → App A} {s : Store}
  {guard : Config ι firestore Thrown Store A → ι → Prop}
  {c mid final : Config ι firestore Thrown Store A}
  {collection : CollectionName} {id : String} {data data' : Document}

def Aggiunto (trace : List (ι × Exchange firestore Thrown)) (collection : CollectionName)
    (id : String) (data : Document) : Prop :=
  ∃ i, (i, ⟨.add collection data, .ok id⟩) ∈ trace

theorem Aggiunto.of_step {i : ι} {choice : network.Choice}
    (stepped : mid.step network i choice = some final)
    (added : Aggiunto final.trace collection id data) :
    Aggiunto mid.trace collection id data ∨ ¬ mid.store.Used collection id ∧
      final.store.Used collection id ∧
        final.trace = (i, ⟨.add collection data, .ok id⟩) :: mid.trace := by
  obtain ⟨op, next, reply, -, answered, -, trace⟩ := Config.step_cases stepped
  obtain ⟨j, member⟩ := added
  rw [trace] at member
  rcases List.mem_cons.mp member with same | earlier
  · cases same
    rcases network_add answered with ⟨e, failed, -⟩ | ⟨newId, fresh, same, store⟩
    · cases failed
    · cases same
      refine .inr ⟨fresh, ?_, trace⟩
      rw [store]
      exact Store.used_of_get (Store.get_put_self _ _ _ _)
  · exact .inl ⟨j, earlier⟩

theorem used_of_reaches (reach : Reaches network guard c final)
    (used : c.store.Used collection id) :
    final.store.Used collection id := by
  induction reach with
  | refl => exact used
  | step _ _ stepped ih =>
    obtain ⟨op, next, reply, -, answered, -, -⟩ := Config.step_cases stepped
    exact ih.network answered

theorem Aggiunto.used (reach : Reaches network guard (.start s pool) c)
    (added : Aggiunto c.trace collection id data) : c.store.Used collection id := by
  induction reach with
  | refl =>
    obtain ⟨i, member⟩ := added
    cases member
  | step before allowed stepped ih =>
    rcases added.of_step stepped with earlier | ⟨-, used, -⟩
    · exact used_of_reaches (.step .refl allowed stepped) (ih earlier)
    · exact used

theorem Aggiunto.fresh (reach : Reaches network guard (.start s pool) c)
    (added : Aggiunto c.trace collection id data) : ¬ s.Used collection id := by
  induction reach with
  | refl =>
    obtain ⟨i, member⟩ := added
    cases member
  | step before _ stepped ih =>
    rcases added.of_step stepped with earlier | ⟨fresh, -, -⟩
    · exact ih earlier
    · exact fun used => fresh (used_of_reaches before used)

theorem Aggiunto.unique (reach : Reaches network guard (.start s pool) c)
    (added : Aggiunto c.trace collection id data) (added' : Aggiunto c.trace collection id data') :
    data = data' := by
  induction reach with
  | refl =>
    obtain ⟨i, member⟩ := added
    cases member
  | step before _ stepped ih =>
    rcases added.of_step stepped with earlier | ⟨fresh, -, trace⟩
    · rcases added'.of_step stepped with earlier' | ⟨fresh, -, -⟩
      · exact ih earlier earlier'
      · exact absurd (earlier.used before) fresh
    · rcases added'.of_step stepped with earlier' | ⟨-, -, trace'⟩
      · exact absurd (earlier'.used before) fresh
      · -- both are the exchange of this step
        cases trace.symm.trans trace'
        rfl

end

end TeamSync
