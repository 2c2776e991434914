import TeamSync.Projects.Runs

/-! The calls of all clients, on projects and on tasks. -/

set_option autoImplicit false

namespace TeamSync.Team

open Effects Projects Tasks

inductive TeamCall where
  | suProgetto (call : ProjectCall)
  | addProgetto (vm : ProgettoViewModel) (now : DateTime)
      (progettoId uuid nome descrizione : String)
      (dataScadenza : DateTime) (priorita : Priorita) (partecipanti : List String)
  | getAttivitaByProgettoId (progettoId : String)
  | addTodo (zone : Zone) (oggi now : DateTime) (titolo descrizione : String)
      (dataScadenza : DateTime)
      (completato : Bool) (proprietario progetto : String) (priorita : Priorita)
  | updateTodo (zone : Zone) (oggi now : DateTime) (id titolo descrizione : String)
      (dataScadenza dataCreazione : DateTime) (progetto : String) (utenti : List String)
      (completato : Bool)
      (priorita : Priorita)
  | updateDataScadenzaTodo (now : DateTime) (attivita : LeMieAttivita)
      (dataScadenzaProgetto : DateTime)
  | completeTodo (id : String) (completato : Bool)
  | delega (id : String) (call : Delega)
  | deleteTodo (id : String)

def TeamCall.process : TeamCall → App Unit
  | .suProgetto call => (fun _ => ()) <$> call.process
  | .addProgetto vm now progettoId uuid nome descrizione dataScadenza priorita partecipanti =>
    (fun _ => ()) <$> vm.addProgetto now progettoId uuid nome descrizione dataScadenza priorita
      partecipanti
  | .getAttivitaByProgettoId progettoId =>
    (fun _ => ()) <$> TodoRepository.getAttivitaByProgettoId progettoId
  | .addTodo zone oggi now titolo descrizione dataScadenza completato proprietario progetto
    priorita =>
    (fun _ => ()) <$> LeMieAttivitaViewModel.addTodo zone oggi now titolo descrizione dataScadenza
      completato proprietario progetto priorita
  | .updateTodo zone oggi now id titolo descrizione dataScadenza dataCreazione progetto utenti
      completato priorita =>
    (fun _ => ()) <$> LeMieAttivitaViewModel.updateTodo zone oggi now id titolo descrizione
      dataScadenza dataCreazione progetto utenti completato priorita
  | .updateDataScadenzaTodo now attivita dataScadenzaProgetto =>
    (fun _ => ()) <$> LeMieAttivitaViewModel.updateDataScadenzaTodo now attivita
      dataScadenzaProgetto
  | .completeTodo id completato =>
    (fun _ => ()) <$> LeMieAttivitaViewModel.completeTodo id completato
  | .delega id call => call.process id
  | .deleteTodo id => (fun _ => ()) <$> LeMieAttivitaViewModel.deleteTodo id

def TeamCall.Riscrive : TeamCall → Prop
  | .suProgetto (.aggiorna ..) | .updateTodo .. | .updateDataScadenzaTodo .. => True
  | _ => False

theorem quiet_getAttivita (progettoId : String) :
    Quiet (TeamCall.getAttivitaByProgettoId progettoId).process :=
  .bind (quiet_lista _ _ _) fun _ => trivial

end TeamSync.Team
