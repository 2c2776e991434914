import TeamSync.Repository.Profili
import TeamSync.View.LeMieAttivitaUI

/-! One task in the lists of the page: the names it shows and whether it can be changed. -/

set_option autoImplicit false

namespace TeamSync

open Effects

structure TodoItem where
  item : LeMieAttivita
  listaUtenti : String
  modifica : Bool
  caricamento : Bool
  deriving DecidableEq, Repr

namespace TodoItem

def nomeDi (persona : ProfiloUtente) : String := persona.nome ++ " " ++ persona.cognome

/-- The loop of `_fetchUsers`: the name that makes the count equal to the number of
assignees is the only one that does not end its line. -/
def scriviUtenti (size : Nat) : List String → Nat → String → App String
  | [], _, listaUtenti => pure listaUtenti
  | idUtente :: utenti, contatore, listaUtenti => do
    let persona ← ViewModelUtente.ottieniUtente idUtente
    match persona with
    | some persona =>
      if contatore + 1 = size then
        scriviUtenti size utenti (contatore + 1) (listaUtenti ++ nomeDi persona)
      else scriviUtenti size utenti (contatore + 1) (listaUtenti ++ (nomeDi persona ++ "\n"))
    | none => scriviUtenti size utenti contatore listaUtenti

/-- `_fetchUsers`; `utenteCorrente` is the identifier of the current user, if there is one. -/
def fetchUsers (utenteCorrente : Option String) (item : LeMieAttivita) : App TodoItem := do
  let listaUtenti ← scriviUtenti item.utenti.length item.utenti 0 ""
  pure {
    item := item
    listaUtenti := listaUtenti
    modifica := utenteCorrente.any fun id => item.utenti.contains id
    caricamento := false }

end TodoItem

end TeamSync
