import TeamSync.Projects.Abandonment
import TeamSync.ViewModel.ProgettoViewModel

/-! The screen of a project while it is opened, and what its build needs.

The project is read twice, and the user's tasks are read at the same time. Every
read is answered from the database as it is at that time.
-/

set_option autoImplicit false

namespace TeamSync.Screens.ProjectOpening

open Effects

inductive Recupero where
  | avviato
  | letto
  | finito
  deriving DecidableEq, Repr

structure Pagina where
  progetto : Option Progetto
  -- not initialised at first
  dataScadenzaProgetto : Option DateTime
  isLoadingProgetto : Bool
  isLoadingAttivita : Bool
  attivitaNonCompletate : List LeMieAttivita
  recupero : Recupero
  deriving DecidableEq, Repr

inductive Mancanza where
  | nullCheck
  | lateInitialization
  deriving DecidableEq, Repr

inductive Corpo where
  | nulla
  | progettoCompletato (dataConsegna : DateTime) (voto : String)
  | attivita (items : List (LeMieAttivita × DateTime))
  deriving DecidableEq, Repr

namespace Pagina

def initState (attivitaNonCompletate : List LeMieAttivita) : Pagina where
  -- the view model may have a list from before
  progetto := none
  dataScadenzaProgetto := none
  isLoadingProgetto := true
  isLoadingAttivita := true
  attivitaNonCompletate := attivitaNonCompletate
  recupero := .avviato

def primaLettura (letto : Option Progetto) (s : Pagina) : Pagina :=
  -- the first read of `_fetchProgettoData` is answered
  { s with progetto := letto, recupero := .letto }

/-- The read of `recuperaDataScadenza` is answered, and `_fetchProgettoData` ends. A project
that is not there throws, and the flag is cleared all the same. -/
def secondaLettura (letto : Option Progetto) (s : Pagina) : Pagina := { s with
  dataScadenzaProgetto :=
    match letto with
    | some progetto => some progetto.dataScadenza
    | none => s.dataScadenzaProgetto
  isLoadingProgetto := false
  recupero := .finito }

def mostraAttivita (esito : Except Thrown (List LeMieAttivita)) (s : Pagina) : Pagina := { s with
  attivitaNonCompletate :=
  -- `_fetchLeMieAttivitaData` ends
    match esito with
    | .ok lista => lista
    | .error _ => s.attivitaNonCompletate
  isLoadingAttivita := false }

/-- The tasks that `build` makes a `TodoItem` of. -/
def todoItems (s : Pagina) : List LeMieAttivita :=
  if s.isLoadingProgetto then []
  else
    match s.progetto with
    | none => []
    | some progetto =>
      if progetto.completato || s.isLoadingAttivita then [] else s.attivitaNonCompletate

def todoItem (s : Pagina) (attivita : LeMieAttivita) : Except Mancanza (LeMieAttivita × DateTime) :=
  -- the item of one task
  match s.dataScadenzaProgetto with
  | some dataScadenzaProgetto => .ok (attivita, dataScadenzaProgetto)
  | none => .error .lateInitialization

def build (s : Pagina) : Except Mancanza Corpo :=
  if s.isLoadingProgetto then .ok .nulla
  else
    match s.progetto with
    | none => .error .nullCheck
    | some progetto =>
      if progetto.completato then
        .ok (.progettoCompletato progetto.dataConsegna progetto.voto)
      else do
        let items ← s.todoItems.mapM s.todoItem
        pure (.attivita items)

end Pagina

/-- `_fetchLeMieAttivitaData`, up to the list that it sets; `utenteCorrente` is the user's id. -/
def leMieAttivita (idProgetto : String) (utenteCorrente : Option String) :
    App (List LeMieAttivita) :=
  match utenteCorrente with
  | some userId => ProgettoViewModel.caricaLeMieAttivitaNonCompletate idProgetto userId
  | none => throw .nullCheck

/-- What the reads of one opening come to, each from a database of its own. -/
structure Esiti (idProgetto : String) (utenteCorrente : Option String) where
  prima : Option Progetto
  seconda : Option Progetto
  attivita : Except Thrown (List LeMieAttivita)
  prima_letta : ∃ store calls final,
    Runs network (ProgettoViewModel.getProgettoById idProgetto) store calls (.ok prima) final
  seconda_letta : ∃ store calls final,
    Runs network (ProgettoViewModel.getProgettoById idProgetto) store calls (.ok seconda) final
  attivita_lette : ∃ store calls final,
    Runs network (leMieAttivita idProgetto utenteCorrente) store calls attivita final

def Esiti.mostrate {idProgetto : String} {utenteCorrente : Option String}
    (esiti : Esiti idProgetto utenteCorrente) (vecchie : List LeMieAttivita) :
    List LeMieAttivita :=
  match esiti.attivita with
  | .ok lista => lista
  | .error _ => vecchie

/-- The states of an opening with these outcomes, in which the reads are answered in any order. -/
inductive Raggiunta {idProgetto : String} {utenteCorrente : Option String}
    (esiti : Esiti idProgetto utenteCorrente) (vecchie : List LeMieAttivita) : Pagina → Prop where
  | initState : Raggiunta esiti vecchie (.initState vecchie)
  | primaLettura {s : Pagina} : Raggiunta esiti vecchie s → s.recupero = .avviato →
      Raggiunta esiti vecchie (s.primaLettura esiti.prima)
  | secondaLettura {s : Pagina} : Raggiunta esiti vecchie s → s.recupero = .letto →
      Raggiunta esiti vecchie (s.secondaLettura esiti.seconda)
  | attivita {s : Pagina} : Raggiunta esiti vecchie s → s.isLoadingAttivita = true →
      Raggiunta esiti vecchie (s.mostraAttivita esiti.attivita)

structure SenzaMancanze (s : Pagina) : Prop where
  progetto : s.isLoadingProgetto = false → s.progetto ≠ none
  dataScadenzaProgetto : ∀ attivita ∈ s.todoItems, s.dataScadenzaProgetto ≠ none

section
variable {s : Pagina}

theorem mapM_todoItem_iff {attivita : List LeMieAttivita} :
    (∃ items, attivita.mapM s.todoItem = .ok items) ↔
      ∀ a ∈ attivita, s.dataScadenzaProgetto ≠ none := by
  constructor
  · rintro ⟨items, built⟩ a member
    obtain ⟨item, -, made⟩ := mapM_of_mem built member
    intro missing
    rw [Pagina.todoItem, missing] at made
    cases made
  · intro there
    obtain ⟨items, each⟩ := exists_forall₂ (R := fun a item => s.todoItem a = .ok item)
      fun a member => by
        obtain ⟨date, found⟩ := Option.ne_none_iff_exists'.mp (there a member)
        exact ⟨(a, date), by rw [Pagina.todoItem, found]⟩
    exact ⟨items, mapM_of_forall₂ each⟩

theorem mem_todoItems_iff {attivita : LeMieAttivita} : attivita ∈ s.todoItems ↔
    s.isLoadingProgetto = false ∧ s.isLoadingAttivita = false ∧
      (∃ progetto, s.progetto = some progetto ∧ progetto.completato = false) ∧
      attivita ∈ s.attivitaNonCompletate := by
  unfold Pagina.todoItems
  cases s.isLoadingProgetto with
  | true => simp
  | false =>
    cases s.progetto with
    | none => simp
    | some progetto =>
      cases s.isLoadingAttivita <;> cases stato : progetto.completato <;> simp [stato]

theorem build_iff : (∃ corpo, s.build = .ok corpo) ↔ SenzaMancanze s := by
  unfold Pagina.build
  cases loading : s.isLoadingProgetto with
  | true =>
    refine iff_of_true ⟨_, rfl⟩ ⟨fun shown => ?_, fun a shown => ?_⟩
    · cases loading.symm.trans shown
    · cases loading.symm.trans (mem_todoItems_iff.mp shown).1
  | false =>
    cases found : s.progetto with
    | none =>
      refine iff_of_false ?_ fun fine => fine.progetto loading found
      rintro ⟨corpo, ⟨⟩⟩
    | some progetto =>
      have known : SenzaMancanze s ↔ ∀ a ∈ s.todoItems, s.dataScadenzaProgetto ≠ none :=
        ⟨SenzaMancanze.dataScadenzaProgetto, fun there => ⟨fun _ => by simp [found], there⟩⟩
      rw [known]
      cases stato : progetto.completato with
      | true =>
        refine iff_of_true ⟨.progettoCompletato progetto.dataConsegna progetto.voto, ?_⟩ ?_
        · simp [stato]
        · intro a shown
          obtain ⟨-, -, ⟨progetto', same, stato'⟩, -⟩ := mem_todoItems_iff.mp shown
          cases found.symm.trans same
          cases stato.symm.trans stato'
      | false =>
        rw [← mapM_todoItem_iff]
        simp only [stato, Bool.false_eq_true, if_false, bind_eq_ok]
        constructor
        · rintro ⟨corpo, items, built, -⟩
          exact ⟨items, built⟩
        · rintro ⟨items, built⟩
          exact ⟨.attivita items, items, built, rfl⟩

end

section
variable {idProgetto : String} {utenteCorrente : Option String}
    {esiti : Esiti idProgetto utenteCorrente} {vecchie : List LeMieAttivita} {s : Pagina}

/-- What the fields hold, as far as the reads have come. -/
structure CampiLetti (esiti : Esiti idProgetto utenteCorrente) (vecchie : List LeMieAttivita)
    (s : Pagina) : Prop where
  isLoadingProgetto : s.isLoadingProgetto = false ↔ s.recupero = .finito
  progetto : s.recupero ≠ .avviato → s.progetto = esiti.prima
  dataScadenzaProgetto : s.recupero = .finito →
    (s.dataScadenzaProgetto ≠ none ↔ esiti.seconda ≠ none)
  iniziale : s.recupero ≠ .finito → s.dataScadenzaProgetto = none
  attivita : s.isLoadingAttivita = false → s.attivitaNonCompletate = esiti.mostrate vecchie
  prima_attivita : s.isLoadingAttivita = true → s.attivitaNonCompletate = vecchie

theorem Raggiunta.campiLetti (reached : Raggiunta esiti vecchie s) :
    CampiLetti esiti vecchie s := by
  induction reached with
  | initState =>
    constructor <;> simp [Pagina.initState]
  | primaLettura _ started ih =>
    refine ⟨?_, fun _ => rfl, ?_, fun _ => ih.iniziale (by simp [started]), ih.attivita,
      ih.prima_attivita⟩
    · have loading := ih.isLoadingProgetto
      simpa [Pagina.primaLettura, started] using loading
    · rintro ⟨⟩
  | secondaLettura _ started ih =>
    refine ⟨by simp [Pagina.secondaLettura], fun _ => ih.progetto (by simp [started]), fun _ => ?_,
      fun unfinished => absurd rfl unfinished, ih.attivita, ih.prima_attivita⟩
    have missing := ih.iniziale (by simp [started])
    cases esiti.seconda <;> simp [Pagina.secondaLettura, missing]
  | @attivita s _ loading ih =>
    refine ⟨ih.isLoadingProgetto, ih.progetto, ih.dataScadenzaProgetto, ih.iniziale, fun _ => ?_,
      by rintro ⟨⟩⟩
    have before := ih.prima_attivita loading
    unfold Esiti.mostrate
    cases esiti.attivita <;> simp [Pagina.mostraAttivita, before]

def Sufficienti (esiti : Esiti idProgetto utenteCorrente) (vecchie : List LeMieAttivita) : Prop :=
  ∃ progetto, esiti.prima = some progetto ∧ (esiti.seconda ≠ none ∨ progetto.completato = true ∨
    esiti.mostrate vecchie = [])

theorem senzaMancanze_of_sufficienti (enough : Sufficienti esiti vecchie)
    (reached : Raggiunta esiti vecchie s) : SenzaMancanze s := by
  obtain ⟨progetto, first, rest⟩ := enough
  have holds := reached.campiLetti
  constructor
  · intro shown
    rw [holds.progetto (by simp [holds.isLoadingProgetto.mp shown]), first]
    exact Option.some_ne_none progetto
  · intro a shown
    obtain ⟨loaded, listed, ⟨progetto', same, stato⟩, member⟩ := mem_todoItems_iff.mp shown
    have finished := holds.isLoadingProgetto.mp loaded
    rw [holds.progetto (by simp [finished]), first] at same
    cases same
    rw [holds.attivita listed] at member
    rcases rest with found | completed | none
    · exact (holds.dataScadenzaProgetto finished).mpr found
    · cases stato.symm.trans completed
    · rw [none] at member
      cases member

end

/-- Whatever the order in which the reads are answered, no build misses anything just when the
first read has found the project and the second has too, unless the project is completed or
there is no task to show. -/
theorem opening_builds_iff {idProgetto : String} {utenteCorrente : Option String}
    (esiti : Esiti idProgetto utenteCorrente) (vecchie : List LeMieAttivita) :
    (∀ s, Raggiunta esiti vecchie s → SenzaMancanze s) ↔ Sufficienti esiti vecchie := by
  constructor
  · intro fine
    have opened : Raggiunta esiti vecchie (.initState vecchie) := .initState
    -- the state in which all reads have been answered
    have ended := ((opened.primaLettura rfl).secondaLettura rfl).attivita rfl
    have holds := ended.campiLetti
    obtain ⟨progetto, first⟩ := Option.ne_none_iff_exists'.mp ((fine _ ended).progetto rfl)
    have first : esiti.prima = some progetto := first
    refine ⟨progetto, first, ?_⟩
    by_contra lacking
    obtain ⟨missing, open', shown⟩ := not_or.mp lacking |>.imp_right not_or.mp
    obtain ⟨a, member⟩ := List.exists_mem_of_ne_nil _ shown
    have listed := mem_todoItems_iff.mpr ⟨rfl, rfl,
      ⟨progetto, first, Bool.eq_false_iff.mpr open'⟩, (holds.attivita rfl).symm ▸ member⟩
    exact missing ((holds.dataScadenzaProgetto rfl).mp
      ((fine _ ended).dataScadenzaProgetto a listed))
  · exact fun enough s reached => senzaMancanze_of_sufficienti enough reached

/-! ## A project that is deleted -/

def capitolo : LeMieAttivita :=
  ⟨some "t", "Capitolo 1", "", ⟨0, false⟩, ⟨0, false⟩, .media, false, "p", ["anna"], none⟩

theorem capitolo_letto : ∃ store calls final,
    Runs network (leMieAttivita "p" (some "anna")) store calls (.ok [capitolo]) final :=
  ⟨Store.empty.put .todo "t" capitolo.toMap, _, _, .of_runAlone [.inr ""] rfl⟩

theorem progetto_assente : ∃ store calls final,
    Runs network (ProgettoViewModel.getProgettoById "p") store calls (.ok none) final :=
  ⟨Store.empty, _, _, .of_runAlone [.inr ""] rfl⟩

theorem progetto_presente : ∃ store calls final,
    Runs network (ProgettoViewModel.getProgettoById "p") store calls
      (.ok (some (Projects.progettoDiAnna.riletto "p"))) final :=
  ⟨Projects.storeConProgetto, _, _, .of_runAlone [.inr ""] rfl⟩

def giaEliminato : Esiti "p" (some "anna") where
  prima := none
  seconda := none
  attivita := .ok [capitolo]
  prima_letta := progetto_assente
  seconda_letta := progetto_assente
  attivita_lette := capitolo_letto

def eliminatoIntanto : Esiti "p" (some "anna") :=
  { giaEliminato with
    prima := some (Projects.progettoDiAnna.riletto "p")
    prima_letta := progetto_presente }

theorem deleted_project_breaks_the_build :
    (∃ s, Raggiunta giaEliminato [] s ∧ s.isLoadingProgetto = false ∧ s.progetto = none ∧
      s.build = .error .nullCheck) ∧
    ∃ s, Raggiunta eliminatoIntanto [] s ∧ s.todoItems = [capitolo] ∧
      s.dataScadenzaProgetto = none ∧ s.build = .error .lateInitialization := by
  constructor
  · exact ⟨_, (Raggiunta.initState.primaLettura rfl).secondaLettura rfl, rfl, rfl, rfl⟩
  · exact ⟨_, ((Raggiunta.initState.primaLettura rfl).secondaLettura rfl).attivita rfl, rfl, rfl,
      rfl⟩

end TeamSync.Screens.ProjectOpening
