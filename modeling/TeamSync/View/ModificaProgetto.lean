import Mathlib.Logic.Relation
import TeamSync.View.DatePicker
import TeamSync.ViewModel.ProgettoViewModel

/-! The page that edits a project. -/

set_option autoImplicit false

namespace TeamSync

structure ModificaProgetto where
  projectId : String
  viewModel : ProgettoViewModel
  -- given by the page that opens this one, and used nowhere
  dataMinimaScadenzaTask : DateTime
  nomeProgetto : String
  descrizioneProgetto : String
  selectedPriorita : Option Priorita
  selectedDate : Option DateTime
  selectedDate2 : Option DateTime
  selectedVoto : Option String
  progettoCompletato : Bool
  progetto : Option Progetto

namespace ModificaProgetto

open Effects

def initState (projectId : String) (viewModel : ProgettoViewModel)
    (dataMinimaScadenzaTask : DateTime) :
    ModificaProgetto where
  projectId := projectId
  viewModel := viewModel
  dataMinimaScadenzaTask := dataMinimaScadenzaTask
  nomeProgetto := ""
  descrizioneProgetto := ""
  selectedPriorita := none
  selectedDate := none
  selectedDate2 := none
  selectedVoto := none
  progettoCompletato := false
  progetto := none

/-- `_loadProgetto`, once the project has been read. A project without a
description throws after the name has been set. -/
def loadProgetto (page : ModificaProgetto) : Option Progetto → ModificaProgetto
  | none => page
  | some progetto =>
    match progetto.descrizione with
    | none => { page with progetto := some progetto, nomeProgetto := progetto.nome }
    | some descrizione => { page with
        progetto := some progetto
        nomeProgetto := progetto.nome
        descrizioneProgetto := descrizione
        selectedPriorita := some progetto.priorita
        selectedDate := some progetto.dataScadenza
        selectedDate2 := some progetto.dataConsegna
        progettoCompletato := progetto.completato
        selectedVoto := some progetto.voto }

def OffersScadenza (zone : Zone) (page : ModificaProgetto) (picked : DateTime) : Prop :=
  ∃ progetto, page.progetto = some progetto ∧
    Offers zone progetto.dataCreazione (ultimaData zone) picked

def richiestaScadenza (zone : Zone) (page : ModificaProgetto) (oggi : DateTime) :
    Option Richiesta :=
  -- the picker of the deadline; `oggi` is the clock when it is opened
  page.progetto.map fun progetto =>
    ⟨page.selectedDate.getD oggi, progetto.dataCreazione, ultimaData zone⟩

/-- The picker of the delivery date, which is there for a completed project. -/
def richiestaConsegna (zone : Zone) (page : ModificaProgetto) (oggi : DateTime) :
    Option Richiesta :=
  if page.progettoCompletato then
    page.progetto.map fun progetto =>
      ⟨page.selectedDate2.getD oggi, progetto.dataCreazione, ultimaData zone⟩
  else
    none

inductive Tocca (zone : Zone) : ModificaProgetto → ModificaProgetto → Prop where
  | scadenza {page : ModificaProgetto} {picked : DateTime} : OffersScadenza zone page picked →
      Tocca zone page { page with selectedDate := some picked }
  | consegna {page : ModificaProgetto} {picked : DateTime} : page.progettoCompletato = true →
      OffersScadenza zone page picked →
      Tocca zone page { page with selectedDate2 := some picked }
  | compila {page : ModificaProgetto} (nome descrizione : String) (priorita : Option Priorita)
      (voto : Option String) (completato : Bool) : Tocca zone page { page with
        nomeProgetto := nome
        descrizioneProgetto := descrizione
        selectedPriorita := priorita
        selectedVoto := voto
        progettoCompletato := completato }

abbrev Raggiunta (zone : Zone) : ModificaProgetto → ModificaProgetto → Prop :=
  Relation.ReflTransGen (Tocca zone)

/-- `_saveChanges`: the message shown at its end. -/
def saveChanges (page : ModificaProgetto) : App (Option String) :=
  match page.progetto with
  | none => pure none
  | some _ =>
    let voto := page.selectedVoto.getD "Non valutato"
    if page.nomeProgetto.isEmpty then
      pure (some "Per favore, compila tutti i campi obbligatori.")
    else
      match page.selectedPriorita, page.selectedDate with
      | some priorita, some dataScadenza =>
        match page.selectedDate2 with
        | none => throw .nullCheck
        | some dataConsegna => do
          discard (page.viewModel.aggiornaProgetto page.projectId page.nomeProgetto
            page.descrizioneProgetto dataScadenza priorita page.progettoCompletato voto
              dataConsegna)
          pure (some "Progetto salvato con successo!")
      | _, _ => pure (some "Per favore, compila tutti i campi obbligatori.")

end ModificaProgetto

end TeamSync
