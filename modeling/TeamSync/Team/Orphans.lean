import TeamSync.Library.Sequence
import TeamSync.Team.Calls

/-! Tasks and the projects they belong to, over sequences of complete calls. -/

set_option autoImplicit false

namespace TeamSync.Team

open Effects Projects Tasks

abbrev Storia := List (Completed TeamCall firestore Thrown)

/-- New and updated tasks belong to a project that exists when the call starts. -/
def InProgettoEsistente (_ : Storia) (s : Store) : TeamCall → Prop
  | .addTodo _ _ _ _ _ _ _ _ progetto _ => s.get .progetti progetto ≠ none
  | .updateTodo _ _ _ _ _ _ _ _ progetto _ _ _ => s.get .progetti progetto ≠ none
  | .updateDataScadenzaTodo .. => False
  | _ => True

def Eliminato (history : Storia) (progettoId : String) : Prop :=
  ∃ entry ∈ history, ∃ user, entry.call = .suProgetto
    (.membro (.abbandona (some user) progettoId)) ∧
    ⟨.delete .progetti progettoId, .ok ()⟩ ∈ entry.exchanges

def Ancorata (history : Storia) (s : Store) (d : Document) : Prop :=
  ∃ progettoId, d "progetto" = some (.string progettoId) ∧
    (s.get .progetti progettoId ≠ none ∨ Eliminato history progettoId)

def TutteAncorate (history : Storia) (s : Store) : Prop :=
  ∀ id d, s.get .todo id = some d → Ancorata history s d

section
variable {history : Storia} {entry : Completed TeamCall firestore Thrown} {s final : Store}

theorem Eliminato.later {progettoId : String} (gone : Eliminato history progettoId) :
    Eliminato (entry :: history) progettoId := by
  obtain ⟨earlier, member, rest⟩ := gone
  exact ⟨earlier, List.mem_cons_of_mem _ member, rest⟩

theorem Ancorata.later {d : Document} (anchored : Ancorata history s d)
    (projects : ∀ progettoId, s.get .progetti progettoId ≠ none →
      final.get .progetti progettoId ≠ none ∨ Eliminato (entry :: history) progettoId) :
    Ancorata (entry :: history) final d := by
  obtain ⟨progettoId, field, here⟩ := anchored
  refine ⟨progettoId, field, ?_⟩
  rcases here with stored | gone
  · exact projects progettoId stored
  · exact .inr gone.later

theorem TutteAncorate.same (holds : TutteAncorate history s) : TutteAncorate (entry :: history) s :=
  fun id d found => (holds id d found).later fun _ stored => .inl stored

theorem TutteAncorate.put {key : String} {d : Document} (holds : TutteAncorate history s)
    (anchored : Ancorata history s d) : TutteAncorate (entry :: history) (s.put .todo key d) := by
  have projects : ∀ progettoId, s.get .progetti progettoId ≠ none →
      (s.put .todo key d).get .progetti progettoId ≠ none ∨
        Eliminato (entry :: history) progettoId := by
    intro progettoId stored
    rw [Store.get_put_other (by decide)]
    exact .inl stored
  intro id d' found
  rw [Store.get_put] at found
  split at found
  · cases found
    exact anchored.later projects
  · exact (holds id d' found).later projects

theorem TutteAncorate.erase {key : String} (holds : TutteAncorate history s) :
    TutteAncorate history (s.erase .todo key) := by
  intro id d found
  rw [Store.get_erase] at found
  split at found
  · cases found
  · obtain ⟨progettoId, field, here⟩ := holds id d found
    refine ⟨progettoId, field, ?_⟩
    rw [Store.get_erase_other (by decide)]
    exact here

theorem TutteAncorate.putProgetto {key : String} {d : Document} (holds : TutteAncorate history s) :
    TutteAncorate history (s.put .progetti key d) := by
  intro id d' found
  rw [Store.get_put_other (by decide)] at found
  obtain ⟨progettoId, field, here⟩ := holds id d' found
  refine ⟨progettoId, field, ?_⟩
  rcases here with stored | gone
  · rw [Store.get_put]
    split
    · exact .inl (Option.some_ne_none _)
    · exact .inl stored
  · exact .inr gone

theorem TutteAncorate.eraseProgetto {key : String} (holds : TutteAncorate history s)
    (deleted : Eliminato (entry :: history) key) :
    TutteAncorate (entry :: history) (s.erase .progetti key) := by
  intro id d found
  rw [Store.get_erase_other (by decide)] at found
  refine (holds id d found).later fun progettoId stored => ?_
  rw [Store.get_erase]
  split
  -- the tasks of the deleted project stay
  · next same => exact .inr (same.2 ▸ deleted)
  · exact .inl stored

theorem Ancorata.writes {d : Document} {name : String} {write : FieldWrite}
    (anchored : Ancorata history s d)
    (other : name ≠ "progetto") : Ancorata history s (d.writes [(name, write)]) := by
  obtain ⟨progettoId, field, here⟩ := anchored
  refine ⟨progettoId, ?_, here⟩
  rw [Document.writes_one, Function.update_of_ne (Ne.symm other)]
  exact field

end

theorem ancorate_suProgetto {history : Storia} {s final : Store} {call : ProjectCall}
    {exchanges : List (Exchange firestore Thrown)} {out : Except Thrown Result}
    (holds : TutteAncorate history s) (run : Runs network call.process s exchanges out final) :
    TutteAncorate (⟨.suProgetto call, exchanges⟩ :: history) final := by
  match call with
  | .membro (.unisciti userId codice) =>
    rcases runs_unisciti run with rfl | ⟨id, d, -, rfl⟩
    · exact holds.same
    · exact holds.same.putProgetto
  | .membro (.abbandona userId progettoId) =>
    rcases runs_abbandona run with rfl | ⟨user, d, rfl, -, -, rfl | ⟨-, deleted, rfl⟩⟩
    · exact holds.same
    · exact holds.same.putProgetto
    · exact holds.putProgetto.eraseProgetto ⟨_, List.mem_cons_self, user, rfl, deleted⟩
  | .aggiorna .. =>
    rcases runs_aggiorna run with rfl | ⟨d, progetto, -, -, rfl⟩
    · exact holds.same
    · exact holds.same.putProgetto

theorem ancorate_delega {history : Storia} {s final : Store} {id : String} {call : Delega}
    {exchanges : List (Exchange firestore Thrown)} {out : Except Thrown Unit}
    (holds : TutteAncorate history s) (run : Runs network (call.process id) s exchanges out final) :
    TutteAncorate (⟨.delega id call, exchanges⟩ :: history) final := by
  rcases runs_delega run with ⟨-, rfl⟩ | ⟨d, a, found, -, written⟩
  · exact holds.same
  · have after : Ancorata history s
        (d.writes [("utenti", .value (.strings (call.lista a.utenti)))]) :=
      (holds id d found).writes (by decide)
    rcases written with rfl | rfl
    · exact holds.put after
    · exact (holds.put after).erase

theorem ancorate_step {history : Storia} {s final : Store} {call : TeamCall}
    {exchanges : List (Exchange firestore Thrown)} {out : Except Thrown Unit}
    (holds : TutteAncorate history s)
    (allowed : InProgettoEsistente history s call)
    (run : Runs network call.process s exchanges out final) :
    TutteAncorate (⟨call, exchanges⟩ :: history) final := by
  cases call with
  | suProgetto call =>
    obtain ⟨out, ran⟩ := run.of_map
    exact ancorate_suProgetto holds ran
  | addProgetto =>
    obtain ⟨out, ran⟩ := run.of_map
    rcases runs_addProgetto ran with rfl | ⟨newId, -, rfl⟩
    · exact holds.same
    · exact holds.same.putProgetto
  | getAttivitaByProgettoId progettoId =>
    rw [runs_quiet (quiet_getAttivita progettoId) run]
    exact holds.same
  | addTodo =>
    obtain ⟨out, ran⟩ := run.of_map
    rcases runs_viewModel_addTodo ran with rfl | ⟨-, newId, -, rfl⟩
    · exact holds.same
    · exact holds.put ⟨_, rfl, .inl allowed⟩
  | updateTodo =>
    obtain ⟨out, ran⟩ := run.of_map
    rcases runs_viewModel_updateTodo ran with ⟨rfl, -⟩ | ⟨-, rfl⟩
    · exact holds.same
    · exact holds.put ⟨_, rfl, .inl allowed⟩
  | updateDataScadenzaTodo => exact False.elim allowed
  | completeTodo id completato =>
    obtain ⟨out, ran⟩ := run.of_map
    rcases runs_viewModel_completeTodo ran with rfl | ⟨d, found, rfl⟩
    · exact holds.same
    · exact holds.put ((holds id d found).writes (by decide))
  | delega id call => exact ancorate_delega holds run
  | deleteTodo id =>
    obtain ⟨out, ran⟩ := run.of_map
    rcases runs_viewModel_deleteTodo ran with rfl | rfl
    · exact holds.same
    · exact holds.same.erase

/-- Every stored task belongs to a project that exists, or that was deleted by a
leave. -/
theorem orphans_of_abandonment {history : Storia} {final : Store}
    (sequence : Sequence network TeamCall.process InProgettoEsistente Store.empty history final)
    {id : String} {d : Document} (found : final.get .todo id = some d) :
    ∃ progettoId, d "progetto" = some (.string progettoId) ∧
    (final.get .progetti progettoId ≠ none ∨ ∃ entry ∈ history, ∃ user,
      entry.call = .suProgetto (.membro (.abbandona (some user) progettoId)) ∧
        ⟨.delete .progetti progettoId, .ok ()⟩ ∈ entry.exchanges) := by
  have anchored : TutteAncorate history final := by
    refine sequence.invariant ?_ ?_
    · intro history mid call exchanges out final holds allowed run
      exact ancorate_step holds allowed run
    · intro id d found
      cases found
  exact anchored id d found

/-! ## A project that leaves a task behind -/

def creaTesi : TeamCall :=
  .addProgetto ⟨none, [], some "anna", [], false⟩ ⟨0, false⟩ "u" "1a2b3c4d-0000" "Tesi" "Bozza"
    ⟨microsPerDay, false⟩ .alta ["anna"]

def creaCapitolo : TeamCall :=
  .addTodo 0 ⟨0, false⟩ ⟨0, false⟩ "Capitolo 1" "Prima stesura"
    ⟨microsPerDay, false⟩ false "anna" "p" .media

def annaAbbandona : TeamCall := .suProgetto (.membro (.abbandona (some "anna") "p"))

theorem orphans_of_abandonment_capitolo : ∃ history final,
    Sequence network TeamCall.process InProgettoEsistente Store.empty history final ∧
    ∃ entry ∈ history, ∃ user, entry.call = .suProgetto (.membro (.abbandona (some user) "p")) ∧
      ⟨.delete .progetti "p", .ok ()⟩ ∈ entry.exchanges := by
  have empty : Sequence network TeamCall.process InProgettoEsistente Store.empty
    [] Store.empty := .start
  have created := empty.alone creaTesi [.inr "p", .inr ""] trivial rfl
  have added := created.alone creaCapitolo [.inr "t"] (Option.some_ne_none _) rfl
  have left := added.alone annaAbbandona [.inr "", .inr "", .inr "", .inr "", .inr ""] trivial rfl
  obtain ⟨progettoId, field, here⟩ :=
    orphans_of_abandonment left (show Store.get _ .todo "t" = some _ from rfl)
  cases field
  exact ⟨_, _, left, here.resolve_left (fun stored => stored rfl)⟩

/-- Anna was the last participant; the project is gone and the task is not. -/
theorem capitolo_left_behind : ∃ history final,
    Sequence service TeamCall.process InProgettoEsistente Store.empty history final ∧
    ∃ d, final.get .todo "t" = some d ∧ d "progetto" = some (.string "p") ∧
    final.get .progetti "p" = none := by
  have empty : Sequence service TeamCall.process InProgettoEsistente Store.empty
    [] Store.empty := .start
  have created := empty.alone creaTesi ["p", ""] trivial rfl
  have added := created.alone creaCapitolo ["t"] (Option.some_ne_none _) rfl
  have left := added.alone annaAbbandona ["", "", "", "", ""] trivial rfl
  exact ⟨_, _, left, _, rfl, rfl, rfl⟩

end TeamSync.Team
