import TeamSync.Screens.DelegaTask
import TeamSync.View.TodoItem
import TeamSync.ViewModel.ProgettoViewModel

/-! What a user does on the pages of the tasks, as one program.

All the pages show the lists of one view model: a load sets them whatever page it belongs to
and however late it ends. One may go back to a page that was opened before. The buttons of a
`TodoItem` are decided once, when its state is made; the framework may then give the state
another task of the list, as items have no key. A handler that throws leaves the page as it is.
Handlers run one after another.
-/

set_option autoImplicit false

namespace TeamSync.Screens.Visits

open Effects Tasks ProgettoViewModel

inductive Lista where
  | leMie
  | completate
  | nonCompletate
  deriving DecidableEq, Repr

def Lista.carica (idProgetto utente : String) : Lista → App (List LeMieAttivita)
  | .leMie => caricaLeMieAttivitaNonCompletate idProgetto utente
  | .completate => caricaTutteLeAttivitaCompletate idProgetto
  | .nonCompletate => caricaTutteLeAttivitaNonCompletate idProgetto

structure Compilata where
  zone : Zone
  oggi : DateTime
  -- the clock of the dialog's `_onSave`, and that of the save
  now₁ : DateTime
  now₂ : DateTime
  titolo : String
  descrizione : String
  dataScadenza : DateTime
  priorita : Priorita

/-- What is done in a dialog that has been opened for a task, or on the page that delegates. -/
inductive Gesto where
  | elimina
  | completa (isClickedCompletate : Bool)
  | modifica (compilata : Compilata)
  -- taps on the participants at these places, each adding him or taking him away
  | delega (tocchi : List (Nat × Bool))

def dialogo (item : LeMieAttivita) (dataScadenzaProgetto : DateTime) (c : Compilata) :
    EditTodoDialog :=
  { EditTodoDialog.apri item dataScadenzaProgetto c.oggi with
    titolo := c.titolo
    descrizione := c.descrizione
    dataScadenza := c.dataScadenza
    priorita := c.priorita }

def premi (taskId : String) (utenti : List ProfiloUtente) (tocco : Nat × Bool) : App Unit :=
  -- a tap on the page that delegates
  match utenti[tocco.1]? with
  | some utente =>
    DelegaTask.chiama taskId (if tocco.2 then .aggiungi utente.id else .rimuovi utente.id)
  | none => pure ()

def premiTutti (taskId : String) (utenti : List ProfiloUtente) : List (Nat × Bool) → App Unit
  | [] => pure ()
  | tocco :: altri => do
    premi taskId utenti tocco
    premiTutti taskId utenti altri

/-- The page that delegates the task: its participants, and the taps on them. -/
def delegatask (item : LeMieAttivita) (taskId : String) (tocchi : List (Nat × Bool)) :
    App Unit := do
  let progetto ← getProgettoById item.progetto
  match progetto with
  | some progetto => do
    let utenti ← getPartecipantiByIds progetto.partecipanti
    premiTutti taskId utenti tocchi
  | none => pure ()

def Gesto.compi (dataScadenzaProgetto : DateTime) (item : LeMieAttivita) : Gesto → App Unit
  | .elimina =>
    match item.id with
    | some id => discard (LeMieAttivitaViewModel.deleteTodo id)
    | none => throw .nullCheck
  | .completa isClickedCompletate =>
    match item.id with
    | some id => discard (LeMieAttivitaViewModel.completeTodo id (!isClickedCompletate))
    | none => throw .nullCheck
  | .modifica c =>
    discard (LeMieAttivitaUI.handleModificaTask c.zone c.oggi c.now₂
      ((dialogo item dataScadenzaProgetto c).onSave c.now₁))
  | .delega tocchi =>
    match item.id with
    | some id => delegatask item id tocchi
    | none => throw .nullCheck

/-- What is shown on the device, and what has been opened from it. -/
structure Vista where
  -- the pages, each with the deadline of its project: before it is known no task is shown
  pagine : List DateTime
  -- the lists that loads have got, of this page or of others
  caricate : List (Lista × List LeMieAttivita)
  -- the lists of the view model, which every page shows
  attivita : Lista → List LeMieAttivita
  -- with the deadline that their page has given them
  items : List (TodoItem × DateTime)
  -- the tasks whose dialog, or page to delegate, has been opened, with the deadline
  aperte : List (LeMieAttivita × DateTime)

def Vista.vuota : Vista where
  pagine := []
  caricate := []
  attivita := fun _ => []
  items := []
  aperte := []

inductive Passo where
  | apre (idProgetto : String)
  -- the query of a load is answered
  | carica (idProgetto : String) (lista : Lista)
  -- a load sets its list
  | mostra (caricata : Nat)
  -- a page shows the task at this place of a list in a new state
  | initState (pagina : Nat) (lista : Lista) (posto : Nat)
  -- a state that exists is given the task at this place
  | didUpdateWidget (item : Nat) (lista : Lista) (posto : Nat)
  -- a dialog that only asks to confirm is for the task that is shown when one does
  | tocca (item : Nat)
  | compie (aperta : Nat) (gesto : Gesto)

/-- The reads that open the page; the tasks of a completed project are not shown. -/
def apri (idProgetto : String) : App (Option DateTime) := do
  let progetto ← getProgettoById idProgetto
  let riletto ← getProgettoById idProgetto
  match progetto, riletto with
  | some progetto, some riletto =>
    pure (if progetto.completato then none else some riletto.dataScadenza)
  | _, _ => pure none

def Passo.esegui (utente : String) (v : Vista) : Passo → App Vista
  | .apre idProgetto => do
    let dataScadenzaProgetto ← apri idProgetto
    pure { v with pagine := v.pagine ++ dataScadenzaProgetto.toList }
  | .carica idProgetto lista => do
    let items ← lista.carica idProgetto utente
    pure { v with caricate := v.caricate ++ [(lista, items)] }
  | .mostra caricata =>
    match v.caricate[caricata]? with
    | some (lista, items) => pure { v with attivita := Function.update v.attivita lista items }
    | none => pure v
  | .initState pagina lista posto =>
    match v.pagine[pagina]?, (v.attivita lista)[posto]? with
    | some dataScadenzaProgetto, some attivita =>
      try do
        let item ← TodoItem.fetchUsers (some utente) attivita
        pure { v with items := v.items ++ [(item, dataScadenzaProgetto)] }
      catch _ => pure v
    | _, _ => pure v
  | .didUpdateWidget item lista posto =>
    match v.items[item]?, (v.attivita lista)[posto]? with
    | some (stato, dataScadenzaProgetto), some attivita =>
      pure { v with
        items := v.items.set item ({ stato with item := attivita }, dataScadenzaProgetto) }
    | _, _ => pure v
  | .tocca item =>
    match v.items[item]? with
    | some (stato, dataScadenzaProgetto) =>
      pure (if stato.modifica then
        { v with aperte := v.aperte ++ [(stato.item, dataScadenzaProgetto)] } else v)
    | none => pure v
  | .compie aperta gesto =>
    match v.aperte[aperta]? with
    | some (attivita, dataScadenzaProgetto) =>
      try do
        gesto.compi dataScadenzaProgetto attivita
        pure v
      catch _ => pure v
    | none => pure v

def svolgi (utente : String) : List Passo → Vista → App Unit
  | [], _ => pure ()
  | passo :: rest, v => do
    let v ← passo.esegui utente v
    svolgi utente rest v

def visita (utente : String) (passi : List Passo) : App Unit :=
  svolgi utente passi .vuota

/-- No state of an item is given another task. -/
def SenzaRiuso (passi : List Passo) : Prop :=
  ∀ item lista posto, Passo.didUpdateWidget item lista posto ∉ passi

end TeamSync.Screens.Visits
