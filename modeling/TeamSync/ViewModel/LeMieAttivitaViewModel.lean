import TeamSync.Repository.TodoRepository

/-! The view model of the tasks.

Where a function reads the clock more than once, each reading is an argument of
its own. The answer of a function that reports an error is its message.
-/

set_option autoImplicit false

namespace TeamSync.LeMieAttivitaViewModel

open Effects

/-- `oggi` is the clock reading; the day is that of the UTC time, at local midnight. -/
def isDateBeforeToday (zone : Zone) (oggi date : DateTime) : Bool :=
  let today := oggi.toUtc.startOfDay zone
  date.isBefore today

def addTodo (zone : Zone) (oggi now : DateTime) (titolo descrizione : String)
    (dataScadenza : DateTime)
    (completato : Bool) (proprietario progetto : String) (priorita : Priorita) :
    App (Option String) :=
  if titolo.isEmpty then
    pure (some "Il titolo non può essere omesso.")
  else if isDateBeforeToday zone oggi dataScadenza then
    pure (some "La data di scadenza non può essere precedente alla data di creazione della task.")
  else do
    try
      TodoRepository.addTodo now titolo descrizione dataScadenza priorita completato proprietario
        progetto
      pure none
    catch _ => pure (some "Errore durante l'aggiunta della task.")

def utenteAssegnato (idUtente idTask : String) : App Bool := do
  try
    TodoRepository.utenteAssegnato idUtente idTask
  catch e => throw (.caused "Errore durante la verifica dell'assegnazione dell'utente: " e)

def addUserTodo (idUtente idTask : String) : App Unit := do
  try
    TodoRepository.addUserToTodo idTask idUtente
  catch e => throw (.caused "Errore durante l'aggiunta dell'utente al task: " e)

def removeUserTodo (idUtente idTask : String) : App Unit := do
  try
    TodoRepository.removeUserFromTodo idTask idUtente
  catch e => throw (.caused "Errore durante l'aggiunta dell'utente al task: " e)

def updateTodo (zone : Zone) (oggi now : DateTime) (id titolo descrizione : String)
    (dataScadenza dataCreazione : DateTime) (progetto : String) (utenti : List String)
    (completato : Bool) (priorita : Priorita) : App (Option String) :=
  if titolo.isEmpty then
    pure (some "Modifica annullata: Il titolo non può essere omesso.")
  else if isDateBeforeToday zone oggi dataScadenza then
    pure (some
      "Modifica annullata: la data di scadenza non può essere precedente alla data di creazione della task.")
  else do
    try
      TodoRepository.updateTodo now id titolo descrizione dataScadenza dataCreazione priorita
        progetto utenti completato
      pure none
    catch _ => pure (some "Errore durante la modifica della task.")

def updateDataScadenzaTodo (now : DateTime) (attivita : LeMieAttivita)
    (dataScadenzaProgetto : DateTime) :
    App (Option String) := do
  try
    match attivita.id with
    | some id =>
      -- the creation date becomes the old deadline, as in the source
      TodoRepository.updateTodo now id attivita.titolo attivita.descrizione dataScadenzaProgetto
        attivita.dataScadenza attivita.priorita attivita.progetto attivita.utenti
          attivita.completato
      pure none
    | none => throw .nullCheck
  catch _ => pure (some "Errore durante la modifica della task.")

def deleteTodo (id : String) : App (Option String) := do
  -- answers with the message it gives to `setError`
  try
    TodoRepository.deleteTodo id
    pure none
  catch _ => pure (some "Errore durante l'eliminazione della task.")

def completeTodo (id : String) (completato : Bool) : App (Option String) := do
  try
    TodoRepository.completeTodo id completato
    pure none
  catch _ => pure (some "Errore durante l'aggiornamento dello stato della task.")

end TeamSync.LeMieAttivitaViewModel
