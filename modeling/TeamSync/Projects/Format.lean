import TeamSync.Repository.RepositoryProgetto

/-! The stored form of a project: two encoders, one decoder. -/

set_option autoImplicit false

namespace TeamSync.Projects

open Effects RepositoryProgetto

section
variable {s final : Store} {calls : List (Exchange firestore Thrown)} {id : String} {d : Document}
    {p : Progetto}

theorem fromFirestore_creaProgettoMap (id : String) (p : Progetto) :
    Progetto.fromFirestore id (creaProgettoMap p) = .ok (p.riletto id) :=
  Progetto.fromFirestore_eq_ok.mpr (decodes_aggiornaProgettoMap id p)

theorem aggiornaProgettoMap_riletto (id : String) (p : Progetto) :
    aggiornaProgettoMap (p.riletto id) = creaProgettoMap p := rfl

theorem runs_creaProgetto {newId : String}
    (run : Runs network (creaProgetto p) s calls (.ok newId) final) :
    final = s.put .progetti newId (creaProgettoMap p) := by
  obtain ⟨choice, reply, mid, rest, answered, after, -⟩ := runs_call_iff.mp run
  rcases network_add answered with ⟨e, rfl, -⟩ | ⟨other, -, rfl, rfl⟩
  · cases (runs_raise_iff.mp after).2.1
  · obtain ⟨-, same, rfl⟩ := runs_done_iff.mp after
    cases same
    rfl

theorem runs_aggiornaProgetto (named : p.id = some id)
    (run : Runs network (aggiornaProgetto p) s calls (.ok ()) final) :
    final = s.put .progetti id (aggiornaProgettoMap p) := by
  rw [aggiornaProgetto, named] at run
  obtain ⟨choice, reply, mid, rest, answered, after, -⟩ := runs_call_iff.mp run
  rcases network_set answered with ⟨e, rfl, -⟩ | ⟨rfl, rfl⟩
  · cases (runs_raise_iff.mp after).2.1
  · exact (runs_done_iff.mp after).2.2

theorem answers_getProgettoById (stored : s.get .progetti id = some d)
    (decodes : Progetto.Decodes id d p) : Answers service (getProgettoById id) s (some p) := by
  have found := answers_get .progetti id s
  rw [stored] at found
  refine .rescue (found.bind ?_)
  dsimp only
  rw [Progetto.fromFirestore_eq_ok.mpr decodes]
  exact .done _ s

theorem runs_getProgettoById
    (run : Runs network (getProgettoById id) s calls (.ok (some p)) final) :
    final = s ∧ ∃ d, s.get .progetti id = some d ∧ Progetto.Decodes id d p := by
  obtain ⟨choice, reply, mid, rest, answered, after, -⟩ := runs_call_iff.mp run
  obtain ⟨rfl, stored⟩ := network_get answered
  rcases reply with e | _ | d
  · cases (runs_done_iff.mp after).2.1
  · cases (runs_done_iff.mp after).2.1
  cases read : Progetto.fromFirestore id d with
  | error e =>
    simp only [Process.ofExcept_ok, Process.bind_done, read] at after
    cases (runs_done_iff.mp after).2.1
  | ok q =>
    simp only [Process.ofExcept_ok, Process.bind_done, read] at after
    obtain ⟨-, same, rfl⟩ := runs_done_iff.mp after
    cases same
    exact ⟨rfl, d, (stored _ rfl).symm, Progetto.fromFirestore_eq_ok.mp read⟩

theorem answers_getProgettoById_iff :
    Answers service (getProgettoById id) s (some p) ↔
      ∃ d, s.get .progetti id = some d ∧ Progetto.Decodes id d p := by
  constructor
  · intro answers
    obtain ⟨calls, run⟩ := answers.ends
    exact (runs_getProgettoById run.faulty).2
  · rintro ⟨d, stored, decodes⟩
    exact answers_getProgettoById stored decodes

theorem yields_aggiornaProgetto (named : p.id = some id) (s : Store) :
    Yields service (aggiornaProgetto p) s (.ok ())
      (s.put .progetti id (aggiornaProgettoMap p)) := by
  rw [aggiornaProgetto, named]
  exact yields_perform fun _ => rfl

end

/-- A creation and an update of a project store the same document, from which the
project is read back; and what has been read is written as it was stored. -/
theorem project_document_round_trip (p : Progetto) :
    creaProgettoMap p = aggiornaProgettoMap p ∧
    (∀ s final calls newId, Runs network (creaProgetto p) s calls (.ok newId) final →
      final.get .progetti newId = some (creaProgettoMap p)) ∧
    (∀ s final calls id, p.id = some id →
      Runs network (aggiornaProgetto p) s calls (.ok ()) final →
        final.get .progetti id = some (creaProgettoMap p)) ∧
    ∀ id, ∃ q, Progetto.fromFirestore id (creaProgettoMap p) = .ok q ∧
      q.Stesso { p with id := some id } ∧
      ∀ s, s.get .progetti id = some (creaProgettoMap p) →
        Answers service (getProgettoById id) s (some q) ∧
        ∃ t, Yields service (aggiornaProgetto q) s (.ok ()) t ∧
          ∀ c key, t.get c key = s.get c key := by
  refine ⟨creaProgettoMap_eq p, fun s final calls newId run => ?_,
    fun s final calls id named run => ?_, fun id => ⟨p.riletto id, ?_, p.stesso_riletto id,
      fun s stored => ⟨?_, _, yields_aggiornaProgetto rfl s, ?_⟩⟩⟩
  · rw [runs_creaProgetto run, Store.get_put_self]
  · rw [runs_aggiornaProgetto named run, Store.get_put_self, creaProgettoMap_eq]
  · exact fromFirestore_creaProgettoMap id p
  · exact answers_getProgettoById stored (decodes_aggiornaProgettoMap id p)
  · rw [aggiornaProgettoMap_riletto]
    exact Store.get_put_same stored

end TeamSync.Projects
