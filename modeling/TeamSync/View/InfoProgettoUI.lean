import TeamSync.Repository.Profili
import TeamSync.View.TodoItem
import TeamSync.ViewModel.ProgettoViewModel

/-! The page with the details of a project: what it shows once its reads have ended. -/

set_option autoImplicit false

namespace TeamSync

open Effects

/-- A future that has ended, as a `FutureBuilder` sees it. -/
inductive AsyncSnapshot (A : Type) where
  | hasError
  | hasData (data : A)

def AsyncSnapshot.di {A : Type} (future : App A) : App (AsyncSnapshot A) := do
  try
    let data ← future
    pure (.hasData data)
  catch _ => pure .hasError

inductive Partecipanti where
  | errore
  | nessuno
  | elenco (nomi : List String)
  deriving DecidableEq, Repr

def Partecipanti.di : AsyncSnapshot (List ProfiloUtente) → Partecipanti
  | .hasError => .errore
  | .hasData utenti => if utenti.isEmpty then .nessuno else .elenco (utenti.map TodoItem.nomeDi)

inductive InfoProgetto where
  | errore
  | nonTrovato
  | mostra (progetto : Progetto) (partecipanti : Partecipanti)

def InfoProgetto.build (projectId : String) : App InfoProgetto := do
  let progettoSnapshot ← AsyncSnapshot.di (ProgettoViewModel.getProgettoById projectId)
  match progettoSnapshot with
  | .hasError => pure .errore
  | .hasData none => pure .nonTrovato
  | .hasData (some progetto) => do
    let partecipantiSnapshot ←
      AsyncSnapshot.di (ProgettoViewModel.getPartecipantiByIds progetto.partecipanti)
    pure (.mostra progetto (.di partecipantiSnapshot))

end TeamSync
