import TeamSync.Cloud.Service
import TeamSync.Model.Progetto

/-! The repository of the projects. -/

set_option autoImplicit false

namespace TeamSync.RepositoryProgetto

open Effects

def getProgettiUtente (userId : String) : App (List Progetto) := do
  try
    let querySnapshot ← query .progetti [.arrayContains "partecipanti" (.string userId)]
    .ofExcept (querySnapshot.mapM fun doc => Progetto.fromFirestore doc.1 doc.2)
  catch _ => pure []

def creaProgettoMap (progetto : Progetto) : Document := .ofFields [
  ("nome", .string progetto.nome),
  ("descrizione", progetto.descrizione.elim .null .string),
  ("dataCreazione", .timestamp (.fromDate progetto.dataCreazione)),
  ("dataScadenza", .timestamp (.fromDate progetto.dataScadenza)),
  ("dataConsegna", .timestamp (.fromDate progetto.dataConsegna)),
  ("priorita", .string progetto.priorita.toShortString),
  ("partecipanti", .strings progetto.partecipanti),
  ("voto", .string progetto.voto),
  ("completato", .bool progetto.completato),
  ("codice", .string progetto.codice)]

def creaProgetto (progetto : Progetto) : App String := do
  try
    add .progetti (creaProgettoMap progetto)
  catch e => throw (.caused "Errore durante la creazione del progetto: " e)

def aggiungiPartecipante (progettoId userId : Option String) : App Unit :=
  match progettoId, userId with
  | some progettoId, some userId =>
    update .progetti progettoId [("partecipanti", .arrayUnion [.string userId])]
  | _, _ => pure ()

/-- `List<String>.from(docSnapshot.get('partecipanti') ?? [])`; reading an absent field throws. -/
def partecipantiDi (data : Document) : Except Thrown (List String) :=
  match data "partecipanti" with
  | none => .error .stateError
  | some v => Value.asStrings (some v)

def getPartecipantiDelProgetto (progettoId : String) : App (List String) := do
  let docSnapshot ← get .progetti progettoId
  match docSnapshot with
  | some data => .ofExcept (partecipantiDi data)
  | none => pure []

def eliminaProgetto (progettoId : String) : App Unit := do
  try
    delete .progetti progettoId
  catch e => throw (.caused "Errore durante l'eliminazione del progetto: " e)

def abbandonaProgetto (userId : Option String) (progettoId : String) : App Unit :=
  match userId with
  | none => pure ()
  | some userId => do
    try
      let progettoSnapshot ← get .progetti progettoId
      if progettoSnapshot.isNone then
        throw (.exception ("Il progetto con ID " ++ progettoId ++ " non esiste."))
      update .progetti progettoId [("partecipanti", .arrayRemove [.string userId])]
      let listaPartecipanti ← getPartecipantiDelProgetto progettoId
      if listaPartecipanti.isEmpty then
        eliminaProgetto progettoId
        callback true
      else
        callback false
    catch e => throw (.caused "Errore durante l'abbandono del progetto: " e)

/-- The first eight characters of the version-4 UUID drawn. -/
def generaCodiceProgetto (uuid : String) : String := String.ofList (uuid.toList.take 8)

def getProgettoIdByCodice (codice : String) : App (Option String) := do
  try
    let querySnapshot ← query .progetti [.isEqualTo "codice" (.string codice)]
    pure (querySnapshot.head?.map Prod.fst)
  catch _ => pure none

def getProgettoById (progettoId : String) : App (Option Progetto) := do
  try
    let documentSnapshot ← get .progetti progettoId
    match documentSnapshot with
    | some data => .ofExcept ((Progetto.fromFirestore progettoId data).map some)
    | none => pure none
  catch _ => pure none

def aggiornaProgettoMap (progetto : Progetto) : Document := .ofFields [
  ("nome", .string progetto.nome),
  ("descrizione", progetto.descrizione.elim .null .string),
  ("dataCreazione", .timestamp (.fromDate progetto.dataCreazione)),
  ("dataScadenza", .timestamp (.fromDate progetto.dataScadenza)),
  ("dataConsegna", .timestamp (.fromDate progetto.dataConsegna)),
  ("priorita", .string progetto.priorita.toShortString),
  ("partecipanti", .strings progetto.partecipanti),
  ("voto", .string progetto.voto),
  ("completato", .bool progetto.completato),
  ("codice", .string progetto.codice)]

theorem creaProgettoMap_eq (progetto : Progetto) :
    creaProgettoMap progetto = aggiornaProgettoMap progetto := rfl

theorem decodes_aggiornaProgettoMap (id : String) (progetto : Progetto) :
    Progetto.Decodes id (aggiornaProgettoMap progetto) (progetto.riletto id) := by
  refine ⟨rfl, rfl, ?_, ⟨_, rfl, rfl⟩, ⟨_, rfl, rfl⟩, ⟨_, rfl, rfl⟩, ?_,
    Value.asStrings_strings progetto.partecipanti, rfl, rfl, rfl⟩
  · change Value.asStringOrNull (some (progetto.descrizione.elim .null .string)) =
      .ok progetto.descrizione
    cases progetto.descrizione <;> rfl
  · change progetto.priorita = Progetto.prioritaPrinted
      (some (.string progetto.priorita.toShortString))
    rw [Priorita.toShortString_eq_name, Progetto.prioritaPrinted_name]

def aggiornaProgetto (progetto : Progetto) : App Unit :=
  match progetto.id with
  | some id => set .progetti id (aggiornaProgettoMap progetto)
  | none => pure ()

def getProgettiCompletatiUtente (userId : String) : App (List Progetto) := do
  try
    let querySnapshot ← query .progetti
      [.arrayContains "partecipanti" (.string userId), .isEqualTo "completato" (.bool true)]
    .ofExcept (querySnapshot.mapM fun doc => Progetto.fromFirestore doc.1 doc.2)
  catch _ => pure []

end TeamSync.RepositoryProgetto
