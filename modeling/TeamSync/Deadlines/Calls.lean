import TeamSync.Library.Sequence
import TeamSync.Projects.Runs
import TeamSync.View.LeMieAttivitaUI
import TeamSync.View.ModificaProgetto

/-! What the screens call when projects and tasks are created, shown and saved. -/

set_option autoImplicit false

namespace TeamSync.Deadlines

open Effects Projects Tasks

/-- The saves carry the state of their dialog or page, and the readings of the clock. -/
inductive PageCall where
  | addProgetto (vm : ProgettoViewModel) (now : DateTime)
      (progettoId uuid nome descrizione : String)
      (dataScadenza : DateTime) (priorita : Priorita) (partecipanti : List String)
  | getProgettoById (progettoId : String)
  | getAttivitaByProgettoId (progettoId : String)
  | modificaProgetto (page : ModificaProgetto)
  | aggiungiTask (dialog : AddTodoDialog) (oggi now now' : DateTime)
      (utenteCorrente : Option String) (idProgetto : String)
  | modificaTask (dialog : EditTodoDialog) (oggi now now' : DateTime)

def PageCall.process (zone : Zone) : PageCall → App Unit
  | .addProgetto vm now progettoId uuid nome descrizione dataScadenza priorita partecipanti =>
    (fun _ => ()) <$> vm.addProgetto now progettoId uuid nome descrizione dataScadenza priorita
      partecipanti
  | .getProgettoById progettoId => (fun _ => ()) <$> ProgettoViewModel.getProgettoById progettoId
  | .getAttivitaByProgettoId progettoId =>
    (fun _ => ()) <$> TodoRepository.getAttivitaByProgettoId progettoId
  | .modificaProgetto page => (fun _ => ()) <$> page.saveChanges
  | .aggiungiTask dialog oggi now now' utenteCorrente idProgetto => (fun _ => ()) <$>
    LeMieAttivitaUI.handleAggiungiTask zone oggi now' utenteCorrente idProgetto (dialog.onSave now)
  | .modificaTask dialog oggi now now' => (fun _ => ()) <$>
    LeMieAttivitaUI.handleModificaTask zone oggi now' (dialog.onSave now)

abbrev Storia := List (Completed PageCall firestore Thrown)

def Mostrato (history : Storia) (progettoId : String) (p : Progetto) : Prop :=
  ∃ entry ∈ history, ∃ d, entry.call = .getProgettoById progettoId ∧
    ⟨.get .progetti progettoId, .ok (some d)⟩ ∈ entry.exchanges ∧ Progetto.Decodes progettoId d p

def Elencata (history : Storia) (a : LeMieAttivita) : Prop :=
  ∃ entry ∈ history, ∃ docs id d, entry.call = .getAttivitaByProgettoId a.progetto ∧
    ⟨.query .todo [.isEqualTo "progetto" (.string a.progetto)], .ok docs⟩ ∈ entry.exchanges ∧
      (id, d) ∈ docs ∧
    LeMieAttivita.Decodes id d a

/-- A save comes from a page or a dialog that was opened on a project and a task as they were
read. The page gives the deadline of its own project to the dialogs of all the tasks it lists. -/
def DalloSchermo (zone : Zone) (history : Storia) : PageCall → Prop
  | .modificaProgetto page => ∃ p vm dataMinima, Mostrato history page.projectId p ∧
    ModificaProgetto.Raggiunta zone
      ((ModificaProgetto.initState page.projectId vm dataMinima).loadProgetto (some p)) page
  | .aggiungiTask dialog _ _ _ _ idProgetto =>
    ∃ p oggi₁ oggi₂ oggi₃, Mostrato history idProgetto p ∧
    AddTodoDialog.Raggiunto zone (.apri p.dataScadenza oggi₁ oggi₂ oggi₃) dialog
  | .modificaTask dialog _ _ _ => ∃ a idProgetto p oggi, Elencata history a ∧
    Mostrato history idProgetto p ∧
    EditTodoDialog.Raggiunto zone (.apri a p.dataScadenza oggi) dialog
  | _ => True

/-- The write of a call, when it makes one. A save of the page writes the project as it is
stored, with the values of the page. -/
def Scrive (s final : Store) : PageCall → Prop
  | .addProgetto _ now progettoId uuid nome descrizione dataScadenza priorita partecipanti =>
    ∃ newId, newId ∉ (s .progetti).used ∧
    final = s.put .progetti newId (RepositoryProgetto.creaProgettoMap
      (ProgettoViewModel.nuovoProgetto now progettoId uuid nome descrizione dataScadenza priorita
        partecipanti))
  | .modificaProgetto page => ∃ d progetto dataScadenza dataConsegna priorita voto,
    page.selectedDate = some dataScadenza ∧ page.selectedDate2 = some dataConsegna ∧
    s.get .progetti page.projectId = some d ∧ Progetto.Decodes page.projectId d progetto ∧
    final = s.put .progetti page.projectId (RepositoryProgetto.aggiornaProgettoMap
      (modificato progetto page.nomeProgetto page.descrizioneProgetto dataScadenza priorita
        page.progettoCompletato voto dataConsegna))
  | .aggiungiTask dialog _ _ _ _ idProgetto =>
    ∃ newId, ∃ a : LeMieAttivita, a.dataScadenza = dialog.dataSelezionata ∧
    a.completato = false ∧ a.progetto = idProgetto ∧ final = s.put .todo newId a.toMap
  | .modificaTask dialog _ _ _ => ∃ id, ∃ a : LeMieAttivita, a.dataScadenza = dialog.dataScadenza ∧
    a.completato = dialog.todoItem.completato ∧ a.progetto = dialog.todoItem.progetto ∧
    final = s.put .todo id a.toMap
  | _ => False

section
variable {zone : Zone} {s final : Store} {calls : List (Exchange firestore Thrown)}

theorem quiet_getProgettoById (progettoId : String) :
    Quiet (PageCall.process zone (.getProgettoById progettoId)) := by
  have read : Quiet (RepositoryProgetto.getProgettoById progettoId) := by
    refine .rescue (.bind (.perform rfl) fun found => ?_) fun _ => trivial
    cases found with
    | none => trivial
    | some data => exact .ofExcept _
  exact .bind (.rescue read fun _ => trivial) fun _ => trivial

theorem quiet_getAttivitaByProgettoId (progettoId : String) :
    Quiet (PageCall.process zone (.getAttivitaByProgettoId progettoId)) :=
  .bind (quiet_lista _ _ _) fun _ => trivial

theorem runs_modificaProgetto {page : ModificaProgetto} {out : Except Thrown (Option String)}
    (run : Runs network page.saveChanges s calls out final) :
    final = s ∨ Scrive s final (.modificaProgetto page) := by
  unfold ModificaProgetto.saveChanges at run
  split at run
  · exact .inl (runs_done_iff.mp run).2.2
  simp only at run
  split at run
  · exact .inl (runs_done_iff.mp run).2.2
  split at run
  · next priorita dataScadenza _ picked =>
    split at run
    · exact .inl (runs_raise_iff.mp run).2.2
    · next dataConsegna delivered =>
      have edited : ∃ out, Runs network
        ((fun _ => ()) <$> page.viewModel.aggiornaProgetto page.projectId page.nomeProgetto
          page.descrizioneProgetto dataScadenza priorita page.progettoCompletato
            (page.selectedVoto.getD "Non valutato") dataConsegna) s calls out final := by
        rcases runs_bind_iff.mp run with ⟨e, ran, -⟩ | ⟨_, first, rest, mid, ran, after, rfl⟩
        · exact ⟨_, ran⟩
        · obtain ⟨rfl, -, rfl⟩ := runs_done_iff.mp after
          rw [List.append_nil]
          exact ⟨_, ran⟩
      obtain ⟨_, edited⟩ := edited
      obtain ⟨_, edited⟩ := edited.of_map
      obtain ⟨_, edited⟩ := edited.map fun _ => Result.finito
      rcases runs_aggiorna edited with same | ⟨d, progetto, found, decodes, same⟩
      · exact .inl same
      · exact .inr ⟨d, progetto, _, _, _, _, picked, delivered, found, decodes, same⟩
  · exact .inl (runs_done_iff.mp run).2.2

theorem runs_aggiungiTask {oggi now now' : DateTime} {dialog : AddTodoDialog}
    {utenteCorrente : Option String} {idProgetto : String} {out : Except Thrown (Option String)}
    (run : Runs network (LeMieAttivitaUI.handleAggiungiTask zone oggi now' utenteCorrente idProgetto
      (dialog.onSave now)) s calls out final) :
    final = s ∨ Scrive s final (.aggiungiTask dialog oggi now now' utenteCorrente idProgetto) := by
  cases utenteCorrente with
  | none => exact .inl (runs_raise_iff.mp run).2.2
  | some utente =>
    rcases runs_viewModel_addTodo run with same | ⟨-, newId, -, same⟩
    · exact .inl same
    · exact .inr ⟨newId, _, rfl, rfl, rfl, same⟩

theorem runs_modificaTask {oggi now now' : DateTime} {dialog : EditTodoDialog}
    {out : Except Thrown (Option String)}
    (run : Runs network (LeMieAttivitaUI.handleModificaTask zone oggi now' (dialog.onSave now)) s
      calls out final) :
    final = s ∨ Scrive s final (.modificaTask dialog oggi now now') := by
  unfold LeMieAttivitaUI.handleModificaTask at run
  split at run
  · next id _ =>
    rcases runs_viewModel_updateTodo run with ⟨same, -⟩ | ⟨-, same⟩
    · exact .inl same
    · refine .inr ⟨id, _, ?_, ?_, ?_, same⟩ <;> rfl
  · exact .inl (runs_raise_iff.mp run).2.2

/-- A call leaves the database as it was, or makes its one write. -/
theorem runs_process {call : PageCall} {out : Except Thrown Unit}
    (run : Runs network (call.process zone) s calls out final) :
    final = s ∨ Scrive s final call := by
  cases call with
  | addProgetto =>
    obtain ⟨out, ran⟩ := run.of_map
    rcases runs_addProgetto ran with same | ⟨newId, fresh, same⟩
    · exact .inl same
    · exact .inr ⟨newId, fresh, same⟩
  | getProgettoById progettoId => exact .inl (runs_quiet (quiet_getProgettoById progettoId) run)
  | getAttivitaByProgettoId progettoId =>
    exact .inl (runs_quiet (quiet_getAttivitaByProgettoId progettoId) run)
  | modificaProgetto page =>
    obtain ⟨out, ran⟩ := run.of_map
    exact runs_modificaProgetto ran
  | aggiungiTask =>
    obtain ⟨out, ran⟩ := run.of_map
    exact runs_aggiungiTask ran
  | modificaTask =>
    obtain ⟨out, ran⟩ := run.of_map
    exact runs_modificaTask ran

end

end TeamSync.Deadlines
