import TeamSync.Cloud.Service
import TeamSync.Model.LeMieAttivita

/-! The repository of the tasks. -/

set_option autoImplicit false

namespace TeamSync.TodoRepository

open Effects

def addTodo (now : DateTime) (titolo descrizione : String) (dataScadenza : DateTime)
    (priorita : Priorita) (completato : Bool) (utenti progetto : String) : App Unit := do
  try
    let leMieAttivita :=
      LeMieAttivita.new now none titolo descrizione dataScadenza priorita completato
      progetto [utenti] none none
    discard (add .todo leMieAttivita.toMap)
  catch e => throw (.caused "Errore durante l'aggiunta del Todo: " e)

def getAttivitaByProgettoId (progettoId : String) : App (List LeMieAttivita) := do
  try
    let snapshot ← query .todo [.isEqualTo "progetto" (.string progettoId)]
    .ofExcept (snapshot.mapM fun doc => LeMieAttivita.fromFirestore doc.1 (some doc.2))
  catch _ => pure []

def deleteTodo (id : String) : App Unit := do
  try
    delete .todo id
  catch e => throw (.caused "Errore durante l'eliminazione del Todo: " e)

def updateTodo (now : DateTime) (id titolo descrizione : String)
    (dataScadenza dataCreazione : DateTime)
    (priorita : Priorita) (progetto : String) (utenti : List String) (completato : Bool) :
    App Unit := do
  try
    let updatedTodo :=
      LeMieAttivita.new now (some id) titolo descrizione dataScadenza priorita completato
      progetto utenti none (some dataCreazione)
    set .todo id updatedTodo.toMap
  catch e => throw (.caused "Errore durante l'aggiornamento del Todo: " e)

def completeTodo (id : String) (completato : Bool) : App Unit := do
  try
    update .todo id [("completato", .value (.bool completato))]
  catch e => throw (.caused "Errore durante il completamento del Todo: " e)

def addUserToTodo (id newUser : String) : App Unit := do
  try
    let doc ← get .todo id
    let leMieAttivita ← .ofExcept (LeMieAttivita.fromFirestore id doc)
    let updatedUsers := leMieAttivita.utenti ++ [newUser]
    update .todo id [("utenti", .value (.strings updatedUsers))]
  catch e => throw (.caused "Errore durante l'aggiunta dell'utente al Todo: " e)

def utenteAssegnato (userId taskId : String) : App Bool := do
  try
    let taskDoc ← get .todo taskId
    match taskDoc with
    | some data =>
      match data "utenti" with
      | some (.array utenti) => pure (decide (Item.string userId ∈ utenti))
      | some _ => throw .typeError
      | none => pure false
    | none => pure false
  catch _ => pure false

def removeUserFromTodo (id userToRemove : String) : App Unit := do
  try
    let doc ← get .todo id
    let leMieAttivita ← .ofExcept (LeMieAttivita.fromFirestore id doc)
    let updatedUsers := leMieAttivita.utenti.erase userToRemove
    if userToRemove ∈ leMieAttivita.utenti then
      update .todo id [("utenti", .value (.strings updatedUsers))]
    else
      throw (.exception "Utente non trovato nella lista")
    if updatedUsers.isEmpty then
      deleteTodo id
  catch e => throw (.caused "Errore durante la rimozione dell'utente dal Todo: " e)

def getTodoById (id : String) : App LeMieAttivita := do
  try
    let doc ← get .todo id
    .ofExcept (LeMieAttivita.fromFirestore id doc)
  catch e => throw (.caused "Errore durante il recupero del Todo: " e)

def countOr0 (filters : List Filter) : App Nat := do
  -- the number of documents a query answers with, zero when it fails
  try
    let snapshot ← query .todo filters
    pure snapshot.length
  catch _ => pure 0

def countCompletedTodo (progetto : String) : App Nat :=
  countOr0 [.isEqualTo "progetto" (.string progetto), .isEqualTo "completato" (.bool true)]

def countAllTodo (progetto : String) : App Nat :=
  countOr0 [.isEqualTo "progetto" (.string progetto)]

def countNonCompletedTodoByProject (progettoId : String) : App Nat :=
  countOr0 [.isEqualTo "progetto" (.string progettoId), .isEqualTo "completato" (.bool false)]

end TeamSync.TodoRepository
