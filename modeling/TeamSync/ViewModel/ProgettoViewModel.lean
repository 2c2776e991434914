import TeamSync.Repository.RepositoryProgetto
import TeamSync.Repository.TodoRepository

/-! The view model of the projects: what it calls, and the fields it sets. -/

set_option autoImplicit false

namespace TeamSync

open Effects

structure ProgettoViewModel where
  erroreAggiungiProgetto : Option String
  progetti : List Progetto
  utenteCorrenteId : Option String
  attivitaProgetti : List (String × Nat)
  isLoading : Bool

namespace ProgettoViewModel

open RepositoryProgetto TodoRepository

def contaAttivita : List Progetto → App (List (String × Nat))
  -- the loop of `caricaProgettiUtente`: the open tasks of each project
  | [] => pure []
  | progetto :: rest => do
    let attivitaNonCompletate ← countNonCompletedTodoByProject (progetto.id.getD "")
    let attivitaMap ← contaAttivita rest
    pure ((progetto.id.getD "", attivitaNonCompletate) :: attivitaMap)

def caricaProgettiUtente (vm : ProgettoViewModel) (userId : String) : App ProgettoViewModel := do
  let progetti ← getProgettiUtente userId
  let attivitaMap ← contaAttivita progetti
  pure { vm with progetti := progetti, attivitaProgetti := attivitaMap, isLoading := false }

def caricaProgettiCompletatiUtente (userId : String) : App (List Progetto) :=
  -- answers with the list that it sets
  getProgettiCompletatiUtente userId

def caricaLeMieAttivitaNonCompletate (progettoId userId : String) : App (List LeMieAttivita) := do
  let attivitaProgetto ← getAttivitaByProgettoId progettoId
  pure (attivitaProgetto.filter fun a => !a.completato && a.utenti.contains userId)

def caricaTutteLeAttivitaCompletate (progettoId : String) : App (List LeMieAttivita) := do
  let attivitaProgetto ← getAttivitaByProgettoId progettoId
  pure (attivitaProgetto.filter fun a => a.completato)

def caricaTutteLeAttivitaNonCompletate (progettoId : String) : App (List LeMieAttivita) := do
  let attivitaProgetto ← getAttivitaByProgettoId progettoId
  pure (attivitaProgetto.filter fun a => !a.completato)

def getProgettoById (progettoId : String) : App (Option Progetto) := do
  try
    RepositoryProgetto.getProgettoById progettoId
  catch _ => pure none

def aggiornaProgetto (vm : ProgettoViewModel) (progettoId nome descrizione : String)
    (dataScadenza : DateTime) (priorita : Priorita) (completato : Bool) (voto : String)
    (dataConsegna : DateTime) : App ProgettoViewModel := do
  let progetto ← RepositoryProgetto.getProgettoById progettoId
  match progetto with
  | some progetto =>
    let progettoAggiornato := progetto.copyWith none (some nome) (some descrizione) none
      (some dataScadenza) (some dataConsegna) (some priorita) none (some voto)
        (some completato) none
    RepositoryProgetto.aggiornaProgetto progettoAggiornato
    match vm.utenteCorrenteId with
    | some utenteCorrenteId => vm.caricaProgettiUtente utenteCorrenteId
    | none => pure vm
  | none => pure vm

/-- `progettoId` and `uuid` are the two identifiers drawn. The store assigns the
document an identifier of its own. -/
def nuovoProgetto (now : DateTime) (progettoId uuid nome descrizione : String)
    (dataScadenza : DateTime) (priorita : Priorita) (partecipanti : List String) : Progetto where
  id := some progettoId
  nome := nome
  descrizione := some descrizione
  dataCreazione := now
  dataScadenza := dataScadenza
  dataConsegna := dataScadenza
  priorita := priorita
  codice := generaCodiceProgetto uuid
  partecipanti := partecipanti
  voto := "Non Valutato"
  completato := false

def addProgetto (vm : ProgettoViewModel) (now : DateTime)
    (progettoId uuid nome descrizione : String)
    (dataScadenza : DateTime) (priorita : Priorita) (partecipanti : List String) :
    App ProgettoViewModel := do
  try
    let progetto :=
      nuovoProgetto now progettoId uuid nome descrizione dataScadenza priorita partecipanti
    discard (creaProgetto progetto)
    onSuccess progettoId
    pure vm
  catch _ =>
    pure { vm with erroreAggiungiProgetto := some "Errore durante l'aggiunta del progetto." }

def abbandonaProgetto (userId : Option String) (progettoID : String) : App Unit :=
  -- the call of a client whose user is signed in with this uid
  RepositoryProgetto.abbandonaProgetto userId progettoID

def convertiProgettiInId (listaProgetti : List Progetto) : List String :=
  listaProgetti.filterMap Progetto.id

def utentePartecipa (progettiUtente : List String) (progettoId : String) : Bool :=
  progettiUtente.contains progettoId

/-- The answer and the error message the call leaves. -/
def aggiungiPartecipanteConCodice (userId codiceProgetto : String) :
    App (Bool × Option String) := do
  try
    let progettoId ← getProgettoIdByCodice codiceProgetto
    let progettiUtente ← getProgettiUtente userId
    let progettiUtenteStringId := convertiProgettiInId progettiUtente
    match progettoId with
    | some progettoId =>
      if utentePartecipa progettiUtenteStringId progettoId then
        pure (false, some "Fai già parte di questo progetto!")
      else
        aggiungiPartecipante (some progettoId) (some userId)
        pure (true, none)
    | none =>
      pure (false, some
        "Il codice inserito non è valido. Riprovare o contattare il creatore del progetto")
  catch _ => pure (false, some "Si è verificato un errore durante l'aggiunta di un progetto")

end ProgettoViewModel

end TeamSync
