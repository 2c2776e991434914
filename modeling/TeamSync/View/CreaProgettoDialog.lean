import TeamSync.View.DatePicker
import TeamSync.ViewModel.ProgettoViewModel

/-! The dialog that creates a project, or joins one with its code. -/

set_option autoImplicit false

namespace TeamSync

structure CreaProgettoDialog where
  nome : String
  descrizione : String
  dataScadenza : DateTime
  priorita : Priorita
  codiceProgetto : String
  uniscitiProgetto : Bool
  creaProgetto : Bool
  deriving DecidableEq, Repr

namespace CreaProgettoDialog

def apri (oggi : DateTime) : CreaProgettoDialog where
  nome := ""
  descrizione := ""
  dataScadenza := oggi.addDays 1
  priorita := .nessuna
  codiceProgetto := ""
  uniscitiProgetto := false
  creaProgetto := true

/-- What the field of the deadline gives to the picker; `oggi` is the clock when it is tapped. -/
def richiesta (zone : Zone) (dialog : CreaProgettoDialog) (oggi : DateTime) : Option Richiesta :=
  if dialog.creaProgetto then some ⟨dialog.dataScadenza, oggi, ultimaData zone⟩ else none

def selectDate (dialog : CreaProgettoDialog) (picked : Option DateTime) : CreaProgettoDialog :=
  -- what the field does, once the picker has answered
  match picked with
  | some picked =>
    if picked ≠ dialog.dataScadenza then
      { dialog with uniscitiProgetto := false, dataScadenza := picked }
    else
      dialog
  | none => dialog

def conUnCodice (dialog : CreaProgettoDialog) (oggi : DateTime) : CreaProgettoDialog where
  -- 'Con un Codice'
  nome := ""
  descrizione := ""
  dataScadenza := oggi.addDays 1
  priorita := .nessuna
  codiceProgetto := ""
  uniscitiProgetto := !dialog.uniscitiProgetto
  creaProgetto := !dialog.creaProgetto

def oppureCrea (dialog : CreaProgettoDialog) : CreaProgettoDialog := { dialog with
  creaProgetto := !dialog.creaProgetto
  codiceProgetto := ""
  uniscitiProgetto := !dialog.uniscitiProgetto }

def scriviCodice (dialog : CreaProgettoDialog) (value : String) : CreaProgettoDialog :=
  -- the code is typed
  { dialog with nome := "", codiceProgetto := value }

/-- What the user does to the dialog when the clock reads `oggi`. The picker has been opened before
it answers, when the clock read `premuto`. -/
inductive Tocca (zone : Zone) (oggi : DateTime) : CreaProgettoDialog → CreaProgettoDialog → Prop
    where
  | compila {dialog : CreaProgettoDialog} (nome descrizione : String) (priorita : Priorita) :
      dialog.creaProgetto = true → Tocca zone oggi dialog { dialog with
        nome := nome
        descrizione := descrizione
        priorita := priorita
        uniscitiProgetto := false }
  | selectDate {dialog : CreaProgettoDialog} {premuto : DateTime} {picked : Option DateTime} :
      dialog.creaProgetto = true → premuto.micros ≤ oggi.micros →
      (∀ date, picked = some date → Offers zone premuto (ultimaData zone) date) →
      Tocca zone oggi dialog (dialog.selectDate picked)
  | conUnCodice {dialog : CreaProgettoDialog} : dialog.creaProgetto = true →
      Tocca zone oggi dialog (dialog.conUnCodice oggi)
  | oppureCrea {dialog : CreaProgettoDialog} : dialog.uniscitiProgetto = true →
      Tocca zone oggi dialog dialog.oppureCrea
  | scriviCodice {dialog : CreaProgettoDialog} (value : String) : dialog.uniscitiProgetto = true →
      Tocca zone oggi dialog (dialog.scriviCodice value)

structure CreaOUnisce (dialog : CreaProgettoDialog) : Prop where
  unisce : dialog.uniscitiProgetto = true → dialog.creaProgetto = false
  crea : dialog.nome ≠ "" → dialog.creaProgetto = true
  isLocal : dialog.dataScadenza.isUtc = false

theorem apri_creaOUnisce {oggi : DateTime} (isLocal : oggi.isUtc = false) :
    (apri oggi).CreaOUnisce where
  unisce joins := by cases joins
  crea _ := rfl
  isLocal := isLocal

theorem Tocca.creaOUnisce {zone : Zone} {oggi : DateTime} {dialog dialog' : CreaProgettoDialog}
    (touched : Tocca zone oggi dialog dialog') (isLocal : oggi.isUtc = false)
    (holds : dialog.CreaOUnisce) : dialog'.CreaOUnisce := by
  cases touched with
  | compila nome descrizione priorita creates =>
    exact ⟨fun joins => by simp at joins, fun _ => creates, holds.isLocal⟩
  | @selectDate premuto picked creates _ offered =>
    cases picked with
    | none => exact holds
    | some date =>
      obtain ⟨n, -, -, rfl⟩ := offered date rfl
      unfold CreaProgettoDialog.selectDate
      dsimp only
      split
      · exact ⟨fun joins => by simp at joins, fun _ => creates, rfl⟩
      · exact holds
  | conUnCodice creates =>
    exact ⟨fun _ => congrArg (!·) creates, fun named => absurd rfl named, isLocal⟩
  | oppureCrea joins =>
    have notCreates := holds.unisce joins
    refine ⟨fun still => ?_, fun _ => congrArg (!·) notCreates, holds.isLocal⟩
    cases (congrArg (!·) joins).symm.trans still
  | scriviCodice value joins =>
    exact ⟨holds.unisce, fun named => absurd rfl named, holds.isLocal⟩

end CreaProgettoDialog

end TeamSync
