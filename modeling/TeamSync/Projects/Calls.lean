import TeamSync.Cloud.Participants
import TeamSync.ViewModel.ProgettoViewModel

/-! The calls that clients make on projects, and the points each call can be at.

A point is a program: what is left of the call. The points are named after the
next call they make.
-/

set_option autoImplicit false

namespace TeamSync.Projects

open Effects

inductive Result where
  | unito (answer : Bool × Option String)
  | finito

inductive MembershipCall where
  | unisciti (userId codice : String)
  | abbandona (userId : Option String) (progettoId : String)

def MembershipCall.process : MembershipCall → App Result
  | .unisciti userId codice =>
    .unito <$> ProgettoViewModel.aggiungiPartecipanteConCodice userId codice
  | .abbandona userId progettoId =>
    (fun _ => .finito) <$> ProgettoViewModel.abbandonaProgetto userId progettoId

inductive ProjectCall where
  | membro (call : MembershipCall)
  | aggiorna (vm : ProgettoViewModel) (progettoId nome descrizione : String)
      (dataScadenza : DateTime)
      (priorita : Priorita) (completato : Bool) (voto : String) (dataConsegna : DateTime)

def ProjectCall.process : ProjectCall → App Result
  | .membro call => call.process
  | .aggiorna vm progettoId nome descrizione dataScadenza priorita completato voto dataConsegna =>
    (fun _ => .finito) <$> vm.aggiornaProgetto progettoId nome descrizione dataScadenza priorita
      completato voto dataConsegna

/-! ## Leaving -/

abbrev opAbbandona (userId progettoId : String) : Op :=
  .update .progetti progettoId [("partecipanti", .arrayRemove [.string userId])]

def abbandonoFallito (e : Thrown) : App Result :=
  .raise (.caused "Errore durante l'abbandono del progetto: " e)

def annuncia (eliminato : Bool) : App Result :=
  .call (Op.callback eliminato) fun
    | .ok _ => .done .finito
    | .error e => abbandonoFallito e

def elimina (progettoId : String) : App Result :=
  .call (Op.delete .progetti progettoId) fun
    | .ok _ => annuncia true
    | .error e => abbandonoFallito (.caused "Errore durante l'eliminazione del progetto: " e)

def decidi (progettoId : String) : Except Thrown (List String) → App Result
  | .ok listaPartecipanti =>
    if listaPartecipanti.isEmpty then elimina progettoId else annuncia false
  | .error e => abbandonoFallito e

def leggi (progettoId : String) : App Result :=
  .call (Op.get .progetti progettoId) fun
    | .ok (some data) => decidi progettoId (RepositoryProgetto.partecipantiDi data)
    | .ok none => decidi progettoId (.ok [])
    | .error e => abbandonoFallito e

def rimuovi (userId progettoId : String) : App Result :=
  .call (opAbbandona userId progettoId) fun
    | .ok _ => leggi progettoId
    | .error e => abbandonoFallito e

def verifica (userId progettoId : String) : App Result :=
  .call (Op.get .progetti progettoId) fun
    | .ok (some _) => rimuovi userId progettoId
    | .ok none =>
      abbandonoFallito (.exception ("Il progetto con ID " ++ progettoId ++ " non esiste."))
    | .error e => abbandonoFallito e

def abbandono (body : App Unit) : App Result :=
  (body.rescue fun e => .raise (.caused "Errore durante l'abbandono del progetto: " e)).bind
    fun _ =>
    .done .finito

theorem abbandono_callback (eliminato : Bool) :
    abbandono (callback eliminato) = annuncia eliminato :=
  congrArg (Process.call _) (funext fun reply => by cases reply <;> rfl)

theorem abbandono_elimina (progettoId : String) :
    abbandono ((RepositoryProgetto.eliminaProgetto progettoId).bind fun _ => callback true) =
      elimina progettoId := by
  refine congrArg (Process.call _) (funext fun reply => ?_)
  cases reply with
  | error e => rfl
  | ok _ => exact abbandono_callback true

theorem abbandono_decidi (progettoId : String) (read : Except Thrown (List String)) :
    abbandono ((Process.ofExcept read).bind fun listaPartecipanti =>
      if listaPartecipanti.isEmpty then
        (RepositoryProgetto.eliminaProgetto progettoId).bind fun _ => callback true
      else callback false) = decidi progettoId read := by
  cases read with
  | error e => rfl
  | ok listaPartecipanti =>
    simp only [Process.ofExcept_ok, Process.bind_done, decidi]
    split
    · exact abbandono_elimina progettoId
    · exact abbandono_callback false

theorem abbandono_leggi (progettoId : String) :
    abbandono ((RepositoryProgetto.getPartecipantiDelProgetto progettoId).bind
      fun listaPartecipanti => if listaPartecipanti.isEmpty then
        (RepositoryProgetto.eliminaProgetto progettoId).bind fun _ => callback true
      else callback false) = leggi progettoId := by
  refine congrArg (Process.call _) (funext fun reply => ?_)
  rcases reply with e | _ | data
  · rfl
  · exact abbandono_decidi progettoId (.ok [])
  · exact abbandono_decidi progettoId (RepositoryProgetto.partecipantiDi data)

theorem abbandona_process (userId progettoId : String) :
    (MembershipCall.abbandona (some userId) progettoId).process = verifica userId progettoId := by
  refine congrArg (Process.call _) (funext fun reply => ?_)
  rcases reply with e | _ | data
  · rfl
  · rfl
  refine congrArg (Process.call _) (funext fun reply => ?_)
  cases reply with
  | error e => rfl
  | ok _ => exact abbandono_leggi progettoId

/-! ## Joining -/

abbrev opUnisciti (userId progettoId : String) : Op :=
  .update .progetti progettoId [("partecipanti", .arrayUnion [.string userId])]

def iscrivi (userId progettoId : String) : App Result :=
  .call (opUnisciti userId progettoId) fun
    | .ok _ => .done (.unito (true, none))
    | .error _ =>
      .done (.unito (false, some "Si è verificato un errore durante l'aggiunta di un progetto"))

def valuta (userId : String) (found : Option String) (progettiUtente : List Progetto) :
    App Result :=
  match found with
  | some progettoId =>
    if ProgettoViewModel.utentePartecipa (ProgettoViewModel.convertiProgettiInId progettiUtente)
      progettoId then
      .done (.unito (false, some "Fai già parte di questo progetto!"))
    else iscrivi userId progettoId
  | none => .done (.unito (false, some
      "Il codice inserito non è valido. Riprovare o contattare il creatore del progetto"))

def elenca (userId : String) (found : Option String) : App Result :=
  .call (Op.query .progetti [.arrayContains "partecipanti" (.string userId)]) fun
    | .ok docs =>
      valuta userId found
        ((docs.mapM fun doc => Progetto.fromFirestore doc.1 doc.2).toOption.getD [])
    | .error _ => valuta userId found []

def cerca (userId codice : String) : App Result :=
  .call (Op.query .progetti [.isEqualTo "codice" (.string codice)]) fun
    | .ok docs => elenca userId (docs.head?.map Prod.fst)
    | .error _ => elenca userId none

def iscrizione (userId : String) (found : Option String) (progettiUtente : App (List Progetto)) :
    App Result :=
  ((progettiUtente.bind fun progettiUtente =>
      match found with
      | some progettoId =>
        if ProgettoViewModel.utentePartecipa (ProgettoViewModel.convertiProgettiInId progettiUtente)
            progettoId then
          .done (false, some "Fai già parte di questo progetto!")
        else (RepositoryProgetto.aggiungiPartecipante (some progettoId) (some userId)).bind fun _ =>
          .done (true, none)
      | none => .done (false, some
          "Il codice inserito non è valido. Riprovare o contattare il creatore del progetto")).rescue
    fun _ => .done (false, some "Si è verificato un errore durante l'aggiunta di un progetto")).bind
    fun answer => .done (.unito answer)

theorem iscrizione_done (userId : String) (found : Option String) (progettiUtente : List Progetto) :
    iscrizione userId found (.done progettiUtente) = valuta userId found progettiUtente := by
  cases found with
  | none => rfl
  | some progettoId =>
    simp only [iscrizione, valuta, Process.bind_done]
    split
    · rfl
    · exact congrArg (Process.call _) (funext fun reply => by cases reply <;> rfl)

theorem iscrizione_elenca (userId : String) (found : Option String) :
    iscrizione userId found (RepositoryProgetto.getProgettiUtente userId) =
      elenca userId found := by
  refine congrArg (Process.call _) (funext fun reply => ?_)
  cases reply with
  | error e => exact iscrizione_done userId found []
  | ok docs =>
    change iscrizione userId found ((Process.ofExcept
      (docs.mapM fun doc => Progetto.fromFirestore doc.1 doc.2)).rescue fun _ => .done []) =
        valuta userId found
          ((docs.mapM fun doc => Progetto.fromFirestore doc.1 doc.2).toOption.getD [])
    cases docs.mapM fun doc => Progetto.fromFirestore doc.1 doc.2 with
    | ok progettiUtente => exact iscrizione_done userId found progettiUtente
    | error e => exact iscrizione_done userId found []

theorem unisciti_process (userId codice : String) :
    (MembershipCall.unisciti userId codice).process = cerca userId codice := by
  refine congrArg (Process.call _) (funext fun reply => ?_)
  cases reply with
  | error e => exact iscrizione_elenca userId none
  | ok docs => exact iscrizione_elenca userId _

/-! ## Editing -/

def ricarica (vm : ProgettoViewModel) : App Result :=
  match vm.utenteCorrenteId with
  | some utenteCorrenteId => (vm.caricaProgettiUtente utenteCorrenteId).bind fun _ => .done .finito
  | none => .done .finito

def scrivi (vm : ProgettoViewModel) (progettoId : String) (progetto : Progetto) : App Result :=
  .call (Op.set .progetti progettoId (RepositoryProgetto.aggiornaProgettoMap progetto)) fun
    | .ok _ => ricarica vm
    | .error e => .raise e

def modificato (progetto : Progetto) (nome descrizione : String) (dataScadenza : DateTime)
    (priorita : Priorita) (completato : Bool) (voto : String) (dataConsegna : DateTime) :
    Progetto :=
  progetto.copyWith none (some nome) (some descrizione) none (some dataScadenza) (some dataConsegna)
    (some priorita) none (some voto) (some completato) none

def carica (vm : ProgettoViewModel) (progettoId nome descrizione : String) (dataScadenza : DateTime)
    (priorita : Priorita) (completato : Bool) (voto : String) (dataConsegna : DateTime) :
    App Result :=
  .call (Op.get .progetti progettoId) fun
    | .ok (some data) =>
      match Progetto.fromFirestore progettoId data with
      | .ok progetto => scrivi vm progettoId
          (modificato progetto nome descrizione dataScadenza priorita completato voto dataConsegna)
      | .error _ => .done .finito
    | .ok none => .done .finito
    | .error _ => .done .finito

def modifica (vm : ProgettoViewModel) (nome descrizione : String) (dataScadenza : DateTime)
    (priorita : Priorita) (completato : Bool) (voto : String) (dataConsegna : DateTime)
    (progetto : App (Option Progetto)) : App Result :=
  (progetto.bind fun progetto =>
    match progetto with
    | some progetto =>
      (RepositoryProgetto.aggiornaProgetto
        (modificato progetto nome descrizione dataScadenza priorita completato voto
          dataConsegna)).bind fun _ =>
      match vm.utenteCorrenteId with
      | some utenteCorrenteId => vm.caricaProgettiUtente utenteCorrenteId
      | none => .done vm
    | none => .done vm).bind fun _ => .done .finito

theorem modifica_some {vm : ProgettoViewModel} {progettoId nome descrizione : String}
    {dataScadenza : DateTime}
    {priorita : Priorita} {completato : Bool} {voto : String} {dataConsegna : DateTime}
    {progetto : Progetto} (id : progetto.id = some progettoId) :
    modifica vm nome descrizione dataScadenza priorita completato voto dataConsegna
      (.done (some progetto)) = scrivi vm progettoId
        (modificato progetto nome descrizione dataScadenza priorita completato voto
          dataConsegna) := by
  have target :
    (modificato progetto nome descrizione dataScadenza priorita completato voto dataConsegna).id =
      some progettoId := id
  simp only [modifica, Process.bind_done, RepositoryProgetto.aggiornaProgetto, target]
  refine congrArg (Process.call _) (funext fun reply => ?_)
  cases reply with
  | error e => rfl
  | ok _ =>
    simp only [ricarica]
    cases vm.utenteCorrenteId <;> rfl

theorem aggiorna_process (vm : ProgettoViewModel) (progettoId nome descrizione : String)
    (dataScadenza : DateTime) (priorita : Priorita) (completato : Bool) (voto : String)
    (dataConsegna : DateTime) :
    (ProjectCall.aggiorna vm progettoId nome descrizione dataScadenza priorita completato voto
      dataConsegna).process =
    carica vm progettoId nome descrizione dataScadenza priorita completato voto dataConsegna := by
  refine congrArg (Process.call _) (funext fun reply => ?_)
  rcases reply with e | _ | data
  · rfl
  · rfl
  change modifica vm nome descrizione dataScadenza priorita completato voto dataConsegna
    ((Process.ofExcept ((Progetto.fromFirestore progettoId data).map some)).rescue fun _ =>
      .done none) =
    match Progetto.fromFirestore progettoId data with
    | .ok progetto => scrivi vm progettoId
        (modificato progetto nome descrizione dataScadenza priorita completato voto dataConsegna)
    | .error _ => .done .finito
  cases read : Progetto.fromFirestore progettoId data with
  | ok progetto => exact modifica_some (Progetto.fromFirestore_eq_ok.mp read).id
  | error e => rfl

end TeamSync.Projects
