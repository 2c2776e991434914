import Mathlib.Logic.Relation
import TeamSync.View.DatePicker
import TeamSync.ViewModel.LeMieAttivitaViewModel

/-! The dialogs that add and edit a task, and the page's handlers of their saves.

A dialog is the state of its widget. Its date is set by the picker, which is
there only while the project is not overdue.
-/

set_option autoImplicit false

namespace TeamSync

structure AddTodoDialog where
  dataScadenzaProgetto : DateTime
  dataOdierna : DateTime
  dataSelezionata : DateTime
  dataSelezionabile : Bool
  titolo : String
  descrizione : String
  priorita : Priorita
  deriving DecidableEq, Repr

namespace AddTodoDialog

def apri (dataScadenzaProgetto oggi₁ oggi₂ oggi₃ : DateTime) : AddTodoDialog where
  dataScadenzaProgetto := dataScadenzaProgetto
  dataOdierna := oggi₁
  dataSelezionata := oggi₂
  dataSelezionabile := oggi₃.isBefore dataScadenzaProgetto
  titolo := ""
  descrizione := ""
  priorita := .bassa

/-- `_selectDate`, when its button is there: what it gives to the picker. -/
def richiesta (dialog : AddTodoDialog) : Option Richiesta :=
  if dialog.dataSelezionabile then
    some ⟨dialog.dataSelezionata, dialog.dataOdierna, dialog.dataScadenzaProgetto⟩
  else
    none

def selectDate (dialog : AddTodoDialog) (picked : Option DateTime) : AddTodoDialog :=
  match picked with
  | some picked =>
    if picked ≠ dialog.dataOdierna then { dialog with dataSelezionata := picked } else dialog
  | none => dialog

inductive Tocca (zone : Zone) : AddTodoDialog → AddTodoDialog → Prop where
  | selectDate {dialog : AddTodoDialog} {picked : Option DateTime} :
      dialog.dataSelezionabile = true →
      (∀ date, picked = some date →
        Offers zone dialog.dataOdierna dialog.dataScadenzaProgetto date) →
      Tocca zone dialog (dialog.selectDate picked)
  | compila {dialog : AddTodoDialog} (titolo descrizione : String) (priorita : Priorita) :
      Tocca zone dialog
        { dialog with titolo := titolo, descrizione := descrizione, priorita := priorita }

abbrev Raggiunto (zone : Zone) : AddTodoDialog → AddTodoDialog → Prop :=
  Relation.ReflTransGen (Tocca zone)

def Entro (zone : Zone) (dialog : AddTodoDialog) : Prop :=
  Timestamp.giorno zone dialog.dataSelezionata ≤ dialog.dataScadenzaProgetto.day zone

theorem apri_entro {zone : Zone} {dataScadenzaProgetto oggi₁ oggi₂ oggi₃ : DateTime}
    (selezionabile : (apri dataScadenzaProgetto oggi₁ oggi₂ oggi₃).dataSelezionabile = true)
    (isLocal : dataScadenzaProgetto.isUtc = false) (ordered : oggi₂.micros ≤ oggi₃.micros) :
    (apri dataScadenzaProgetto oggi₁ oggi₂ oggi₃).Entro zone := by
  -- the first date is the clock just before the comparison that enables the picker
  have before : oggi₃.micros < dataScadenzaProgetto.micros := of_decide_eq_true selezionabile
  have le : oggi₂.micros ≤ dataScadenzaProgetto.micros := by omega
  exact DateTime.day_mono zone isLocal.symm le

section
variable {zone : Zone} {dialog dialog' : AddTodoDialog}

theorem Tocca.cases (touched : Tocca zone dialog dialog') :
    dialog'.dataScadenzaProgetto = dialog.dataScadenzaProgetto ∧
    dialog'.dataOdierna = dialog.dataOdierna ∧
    dialog'.dataSelezionabile = dialog.dataSelezionabile ∧
    (dialog'.dataSelezionata = dialog.dataSelezionata ∨
      Offers zone dialog.dataOdierna dialog.dataScadenzaProgetto dialog'.dataSelezionata) := by
  cases touched with
  | @selectDate picked _ offered =>
    unfold AddTodoDialog.selectDate
    split
    · next date =>
      split
      · exact ⟨rfl, rfl, rfl, .inr (offered date rfl)⟩
      · exact ⟨rfl, rfl, rfl, .inl rfl⟩
    · exact ⟨rfl, rfl, rfl, .inl rfl⟩
  | compila => exact ⟨rfl, rfl, rfl, .inl rfl⟩

theorem Tocca.entro (touched : Tocca zone dialog dialog') (before : dialog.Entro zone) :
    dialog'.Entro zone := by
  obtain ⟨project, -, -, same | offered⟩ := touched.cases
  · rw [Entro, project, same]
    exact before
  · rw [Entro, project]
    exact offered.giorno_le

theorem Raggiunto.dataScadenzaProgetto (reached : Raggiunto zone dialog dialog') :
    dialog'.dataScadenzaProgetto = dialog.dataScadenzaProgetto := by
  induction reached with
  | refl => rfl
  | tail _ touched ih => exact touched.cases.1.trans ih

theorem Raggiunto.entro (reached : Raggiunto zone dialog dialog')
    (initially : dialog.Entro zone) : dialog'.Entro zone := by
  induction reached with
  | refl => exact initially
  | tail _ touched ih => exact touched.entro ih

end

def onSave (dialog : AddTodoDialog) (now : DateTime) : LeMieAttivita :=
  .new now none dialog.titolo dialog.descrizione dialog.dataSelezionata dialog.priorita false ""
    [] none none

end AddTodoDialog

structure EditTodoDialog where
  todoItem : LeMieAttivita
  dataScadenzaProgetto : DateTime
  dataScadenza : DateTime
  dataSelezionabile : Bool
  titolo : String
  descrizione : String
  priorita : Priorita
  deriving DecidableEq, Repr

namespace EditTodoDialog

def apri (todoItem : LeMieAttivita) (dataScadenzaProgetto oggi : DateTime) : EditTodoDialog where
  todoItem := todoItem
  dataScadenzaProgetto := dataScadenzaProgetto
  dataScadenza := todoItem.dataScadenza
  dataSelezionabile := oggi.isBefore dataScadenzaProgetto
  titolo := todoItem.titolo
  descrizione := todoItem.descrizione
  priorita := todoItem.priorita

def richiesta (dialog : EditTodoDialog) (oggi : DateTime) : Option Richiesta :=
  if dialog.dataSelezionabile then some ⟨dialog.dataScadenza, oggi, dialog.dataScadenzaProgetto⟩
  else none

def selectDate (dialog : EditTodoDialog) (picked : Option DateTime) : EditTodoDialog :=
  match picked with
  | some picked =>
    if picked ≠ dialog.dataScadenza then { dialog with dataScadenza := picked } else dialog
  | none => dialog

/-- What the user does to the dialog when the clock reads `oggi`. The picker has been opened before
it answers, when the clock read `premuto`. -/
inductive Tocca (zone : Zone) (oggi : DateTime) : EditTodoDialog → EditTodoDialog → Prop where
  | selectDate {dialog : EditTodoDialog} {premuto : DateTime} {picked : Option DateTime} :
      dialog.dataSelezionabile = true → premuto.micros ≤ oggi.micros →
      (∀ date, picked = some date → Offers zone premuto dialog.dataScadenzaProgetto date) →
      Tocca zone oggi dialog (dialog.selectDate picked)
  | compila {dialog : EditTodoDialog} (titolo descrizione : String) (priorita : Priorita) :
      Tocca zone oggi dialog
        { dialog with titolo := titolo, descrizione := descrizione, priorita := priorita }

abbrev Raggiunto (zone : Zone) : EditTodoDialog → EditTodoDialog → Prop :=
  Relation.ReflTransGen fun dialog dialog' => ∃ oggi, Tocca zone oggi dialog dialog'

def Entro (zone : Zone) (dialog : EditTodoDialog) : Prop :=
  Timestamp.giorno zone dialog.dataScadenza ≤ dialog.dataScadenzaProgetto.day zone

section
variable {zone : Zone} {oggi : DateTime} {dialog dialog' : EditTodoDialog}

theorem Tocca.cases (touched : Tocca zone oggi dialog dialog') :
    dialog'.todoItem = dialog.todoItem ∧
    dialog'.dataScadenzaProgetto = dialog.dataScadenzaProgetto ∧
    dialog'.dataSelezionabile = dialog.dataSelezionabile ∧
    (dialog'.dataScadenza = dialog.dataScadenza ∨
      ∃ premuto, Offers zone premuto dialog.dataScadenzaProgetto dialog'.dataScadenza) := by
  cases touched with
  | @selectDate premuto picked _ _ offered =>
    unfold EditTodoDialog.selectDate
    split
    · next date =>
      split
      · exact ⟨rfl, rfl, rfl, .inr ⟨premuto, offered date rfl⟩⟩
      · exact ⟨rfl, rfl, rfl, .inl rfl⟩
    · exact ⟨rfl, rfl, rfl, .inl rfl⟩
  | compila => exact ⟨rfl, rfl, rfl, .inl rfl⟩

theorem Tocca.entro (touched : Tocca zone oggi dialog dialog') (before : dialog.Entro zone) :
    dialog'.Entro zone := by
  obtain ⟨-, project, -, same | ⟨_, offered⟩⟩ := touched.cases
  · rw [Entro, project, same]
    exact before
  · rw [Entro, project]
    exact offered.giorno_le

theorem Raggiunto.todoItem (reached : Raggiunto zone dialog dialog') :
    dialog'.todoItem = dialog.todoItem := by
  induction reached with
  | refl => rfl
  | tail _ touched ih =>
    obtain ⟨_, touched⟩ := touched
    exact touched.cases.1.trans ih

theorem Raggiunto.dataScadenzaProgetto (reached : Raggiunto zone dialog dialog') :
    dialog'.dataScadenzaProgetto = dialog.dataScadenzaProgetto := by
  induction reached with
  | refl => rfl
  | tail _ touched ih =>
    obtain ⟨_, touched⟩ := touched
    exact touched.cases.2.1.trans ih

theorem Raggiunto.entro (reached : Raggiunto zone dialog dialog')
    (initially : dialog.Entro zone) : dialog'.Entro zone := by
  induction reached with
  | refl => exact initially
  | tail _ touched ih =>
    obtain ⟨_, touched⟩ := touched
    exact touched.entro ih

end

/-- `_onSave`: the creation date and the file of the item are not passed on. -/
def onSave (dialog : EditTodoDialog) (now : DateTime) : LeMieAttivita :=
  .new now dialog.todoItem.id dialog.titolo dialog.descrizione dialog.dataScadenza dialog.priorita
    dialog.todoItem.completato dialog.todoItem.progetto dialog.todoItem.utenti none none

end EditTodoDialog

namespace LeMieAttivitaUI

open Effects

/-- The `onSave` that the page gives to `AddTodoDialog`; `utenteCorrente` is the user's id. -/
def handleAggiungiTask (zone : Zone) (oggi now : DateTime) (utenteCorrente : Option String)
    (idProgetto : String) (nuovaAttivita : LeMieAttivita) : App (Option String) :=
  match utenteCorrente with
  | some utenteCorrente => LeMieAttivitaViewModel.addTodo zone oggi now nuovaAttivita.titolo
      nuovaAttivita.descrizione nuovaAttivita.dataScadenza nuovaAttivita.completato utenteCorrente
        idProgetto
      nuovaAttivita.priorita
  | none => throw .nullCheck

def handleModificaTask (zone : Zone) (oggi now : DateTime) (attivita : LeMieAttivita) :
    App (Option String) :=
  match attivita.id with
  | some id =>
    LeMieAttivitaViewModel.updateTodo zone oggi now id attivita.titolo attivita.descrizione
      attivita.dataScadenza attivita.dataCreazione attivita.progetto attivita.utenti
        attivita.completato
      attivita.priorita
  | none => throw .nullCheck

end LeMieAttivitaUI

end TeamSync
