import TeamSync.Library.Guarded
import TeamSync.Library.Outcome
import TeamSync.Screens.ProjectTasks
import TeamSync.Tasks.ConcurrentDelegation
import TeamSync.Tasks.Runs
import TeamSync.View.LeMieAttivitaUI

/-! The latest deadline that the screen of a project hands to the page that edits it.

It is the later of two, each of which is computed from its own list when that is loaded.
Every action on the screen runs to its end before the next.
-/

set_option autoImplicit false

namespace TeamSync.Screens.LatestDeadline

open Effects ProjectTasks

def inizio (zone : Zone) : DateTime := .ofDay zone (-25567)

structure LemieAttivita where
  scheda : Scheda
  dataScadenzaMassimaLeMieTaskNonCompletate : DateTime
  dataScadenzaMassimaTaskNonCompletateAll : DateTime
  dataScadenzaMassimaTask : DateTime
  pronta : Bool
  store : Store

def avanza (massima : DateTime) (a : LeMieAttivita) : DateTime :=
  -- the body of the loops of `calcolaDataScadenzaMinimaProgetto`
  if massima.isBefore a.dataScadenza then a.dataScadenza else massima

/-- The loops of `calcolaDataScadenzaMinimaProgetto`. -/
def massima (zone : Zone) (listaAttivita : List LeMieAttivita) : DateTime :=
  listaAttivita.foldl avanza (inizio zone)

namespace LemieAttivita

def nuova (zone : Zone) (store : Store) : LemieAttivita where
  scheda := .leMie
  dataScadenzaMassimaLeMieTaskNonCompletate := inizio zone
  dataScadenzaMassimaTaskNonCompletateAll := inizio zone
  dataScadenzaMassimaTask := inizio zone
  pronta := false
  store := store

def confronta (s : LemieAttivita) : LemieAttivita := { s with
  dataScadenzaMassimaTask :=
  -- the end of `calcolaDataScadenzaMinimaProgetto`
    if s.dataScadenzaMassimaTaskNonCompletateAll.isBefore
        s.dataScadenzaMassimaLeMieTaskNonCompletate then
      s.dataScadenzaMassimaLeMieTaskNonCompletate
    else
      s.dataScadenzaMassimaTaskNonCompletateAll }

def calcolaDataScadenzaMinimaProgetto (zone : Zone) (listaAttivita : List LeMieAttivita)
    (provenienzaLeMieTask : Bool) (s : LemieAttivita) : LemieAttivita :=
  if provenienzaLeMieTask then
    confronta { s with dataScadenzaMassimaLeMieTaskNonCompletate := massima zone listaAttivita }
  else
    confronta { s with dataScadenzaMassimaTaskNonCompletateAll := massima zone listaAttivita }

end LemieAttivita

/-- The load of the list of a tab, to its end. -/
inductive Carica (zone : Zone) (userId idProgetto : String) :
    Scheda → LemieAttivita → LemieAttivita → Prop where
  | leMie {s : LemieAttivita} {lista : List LeMieAttivita}
      {calls : List (Exchange firestore Thrown)} {store : Store} :
      Runs service (ProgettoViewModel.caricaLeMieAttivitaNonCompletate idProgetto userId) s.store
        calls (.ok lista) store →
      Carica zone userId idProgetto .leMie s
        ({ s with store := store }.calcolaDataScadenzaMinimaProgetto zone lista true)
  | nonCompletate {s : LemieAttivita} {lista : List LeMieAttivita}
      {calls : List (Exchange firestore Thrown)} {store : Store} :
      Runs service (ProgettoViewModel.caricaTutteLeAttivitaNonCompletate idProgetto) s.store
        calls (.ok lista) store →
      Carica zone userId idProgetto .nonCompletate s
        ({ s with store := store }.calcolaDataScadenzaMinimaProgetto zone lista false)
  | completate {s : LemieAttivita} {lista : List LeMieAttivita}
      {calls : List (Exchange firestore Thrown)} {store : Store} :
      Runs service (ProgettoViewModel.caricaTutteLeAttivitaCompletate idProgetto) s.store
        calls (.ok lista) store →
      Carica zone userId idProgetto .completate s { s with store := store }

inductive Azione where
  | aggiungi (oggi now : DateTime) (nuovaAttivita : LeMieAttivita)
  | modifica (oggi now : DateTime) (attivita : LeMieAttivita)
  | completa (id : String)
  | elimina (id : String)

namespace Azione

def process (zone : Zone) (userId idProgetto : String) (scheda : Scheda) :
    Azione → App (Option String)
  | .aggiungi oggi now nuovaAttivita =>
    LeMieAttivitaUI.handleAggiungiTask zone oggi now (some userId) idProgetto nuovaAttivita
  | .modifica oggi now attivita => LeMieAttivitaUI.handleModificaTask zone oggi now attivita
  | .completa id => LeMieAttivitaViewModel.completeTodo id (scheda ≠ .completate)
  | .elimina id => LeMieAttivitaViewModel.deleteTodo id

def ricarica (esito : Option String) : Azione → Bool
  -- the list of the tab is loaded again, unless a task has been refused
  | .aggiungi .. | .modifica .. => esito.isNone
  | .completa _ | .elimina _ => true

/-- The deadlines that are entered are after the start of 1900. -/
def DopoInizio (zone : Zone) : Azione → Prop
  | .aggiungi _ _ a | .modifica _ _ a => (inizio zone).micros < a.dataScadenza.micros
  | .completa _ | .elimina _ => True

end Azione

inductive Evento where
  | apri
  | tocca (scheda : Scheda)
  | azione (azione : Azione) (esito : Option String) (dopo : Store)

/-- One action on the screen. The tab of the user's own tasks loads two lists, in any order. -/
inductive Passo (zone : Zone) (userId idProgetto : String) :
    LemieAttivita → Evento → LemieAttivita → Prop where
  | apri {s t : LemieAttivita} : s.pronta = false → Carica zone userId idProgetto .leMie s t →
      Passo zone userId idProgetto s .apri { t with pronta := true }
  | tocca {s t : LemieAttivita} {scheda : Scheda} : s.pronta = true → scheda ≠ .leMie →
      Carica zone userId idProgetto scheda { s with scheda := scheda } t →
      Passo zone userId idProgetto s (.tocca scheda) t
  | toccaLeMie {s mid t : LemieAttivita} {prima seconda : Scheda} : s.pronta = true →
      [prima, seconda].Perm [.leMie, .nonCompletate] →
      Carica zone userId idProgetto prima { s with scheda := .leMie } mid →
      Carica zone userId idProgetto seconda mid t →
      Passo zone userId idProgetto s (.tocca .leMie) t
  | azione {s t : LemieAttivita} {azione : Azione} {esito : Option String}
      {calls : List (Exchange firestore Thrown)} {dopo : Store} : s.pronta = true →
      azione.DopoInizio zone →
      Runs service (azione.process zone userId idProgetto s.scheda) s.store calls (.ok esito) dopo →
      azione.ricarica esito = true →
      Carica zone userId idProgetto s.scheda { s with store := dopo } t →
      Passo zone userId idProgetto s (.azione azione esito dopo) t
  | rifiutata {s : LemieAttivita} {azione : Azione} {esito : Option String}
      {calls : List (Exchange firestore Thrown)} {dopo : Store} : s.pronta = true →
      azione.DopoInizio zone →
      Runs service (azione.process zone userId idProgetto s.scheda) s.store calls (.ok esito) dopo →
      azione.ricarica esito = false →
      Passo zone userId idProgetto s (.azione azione esito dopo) { s with store := dopo }

def Aperta (idProgetto : String) (s : Store) (a : LeMieAttivita) : Prop :=
  ∃ id d, s.get .todo id = some d ∧ d "progetto" = some (.string idProgetto) ∧
    LeMieAttivita.Decodes id d a ∧ a.completato = false

def BenFormata (zone : Zone) (idProgetto : String) (s : Store) : Prop :=
  ∀ id d, s.get .todo id = some d → d "progetto" = some (.string idProgetto) →
    ∃ a, LeMieAttivita.Decodes id d a ∧ (inizio zone).micros < a.dataScadenza.micros

/-- The latest deadline of the open tasks of this kind, or the start of 1900 without any. -/
structure Ultima (zone : Zone) (idProgetto : String) (di : LeMieAttivita → Prop) (s : Store)
    (date : DateTime) : Prop where
  raggiunta : (∃ a, Aperta idProgetto s a ∧ di a ∧ a.dataScadenza = date) ∨
    date = inizio zone ∧ ∀ a, Aperta idProgetto s a → ¬ di a
  limite : ∀ a, Aperta idProgetto s a → di a → a.dataScadenza.micros ≤ date.micros

abbrev UltimaDiTutte (zone : Zone) (idProgetto : String) : Store → DateTime → Prop :=
  Ultima zone idProgetto fun _ => True

abbrev UltimaDelleMie (zone : Zone) (userId idProgetto : String) : Store → DateTime → Prop :=
  Ultima zone idProgetto fun a => userId ∈ a.utenti

/-- The date that was computed for all tasks is not after the latest deadline; one of the
two, it or the latest deadline of the user's own tasks, is that. -/
def BastanoLeMie (zone : Zone) (userId idProgetto : String) (s : LemieAttivita) : Prop :=
  ∀ tutte mie, UltimaDiTutte zone idProgetto s.store tutte →
    UltimaDelleMie zone userId idProgetto s.store mie →
    s.dataScadenzaMassimaTaskNonCompletateAll.micros ≤ tutte.micros ∧
      (s.dataScadenzaMassimaTaskNonCompletateAll.micros = tutte.micros ∨
        mie.micros = tutte.micros)

/-- The date that was computed for the user's own tasks is not after the latest deadline. -/
def BastanoTutte (zone : Zone) (idProgetto : String) (s : LemieAttivita) : Prop :=
  ∀ tutte, UltimaDiTutte zone idProgetto s.store tutte →
    s.dataScadenzaMassimaLeMieTaskNonCompletate.micros ≤ tutte.micros

/-- What an action does to the latest deadline agrees with the dates that are computed again:
the user's own on his tab and when the screen opens, that of all tasks on theirs, and none
on the third. -/
def BastaRicalcolo (zone : Zone) (userId idProgetto : String) (s : LemieAttivita) : Evento → Prop
  | .apri => BastanoLeMie zone userId idProgetto s
  | .tocca .nonCompletate => BastanoTutte zone idProgetto s
  | .tocca _ => True
  | .azione azione esito dopo =>
    match azione.ricarica esito, s.scheda with
    | false, _ => True
    | true, .leMie => BastanoLeMie zone userId idProgetto { s with store := dopo }
    | true, .nonCompletate => BastanoTutte zone idProgetto { s with store := dopo }
    | true, .completate => ∀ date, UltimaDiTutte zone idProgetto s.store date →
        UltimaDiTutte zone idProgetto dopo date

/-- When no load is pending, the date that is handed on is the latest deadline. -/
def Reale (zone : Zone) (idProgetto : String) (s : LemieAttivita) : Prop :=
  s.pronta = true → UltimaDiTutte zone idProgetto s.store s.dataScadenzaMassimaTask

/-! ## The loops -/

section
variable {zone : Zone} {idProgetto userId : String} {s : Store} {di : LeMieAttivita → Prop}
    {date other : DateTime}

theorem avanza_le (massima : DateTime) (a : LeMieAttivita) :
    massima.micros ≤ (avanza massima a).micros ∧
      a.dataScadenza.micros ≤ (avanza massima a).micros := by
  unfold avanza
  split
  · next before => exact ⟨(of_decide_eq_true before).le, le_refl _⟩
  · next after => exact ⟨le_refl _, not_lt.mp fun before => after (decide_eq_true before)⟩

theorem foldl_avanza (lista : List LeMieAttivita) (start : DateTime) :
    (lista.foldl avanza start = start ∨
      ∃ a ∈ lista, a.dataScadenza = lista.foldl avanza start) ∧
    start.micros ≤ (lista.foldl avanza start).micros ∧
    ∀ a ∈ lista, a.dataScadenza.micros ≤ (lista.foldl avanza start).micros := by
  induction lista generalizing start with
  | nil => exact ⟨.inl rfl, le_refl _, fun _ member => by cases member⟩
  | cons first rest ih =>
    obtain ⟨reached, above, bound⟩ := ih (avanza start first)
    obtain ⟨fromStart, fromFirst⟩ := avanza_le start first
    rw [List.foldl_cons]
    refine ⟨?_, fromStart.trans above, List.forall_mem_cons.mpr ⟨fromFirst.trans above, bound⟩⟩
    rcases reached with same | ⟨a, member, same⟩
    · rw [same, avanza]
      split
      · exact .inr ⟨first, List.mem_cons_self, rfl⟩
      · exact .inl rfl
    · exact .inr ⟨a, List.mem_cons_of_mem _ member, same⟩

theorem Aperta.dopoInizio {a : LeMieAttivita} (wellFormed : BenFormata zone idProgetto s)
    (isOpen : Aperta idProgetto s a) : (inizio zone).micros < a.dataScadenza.micros := by
  obtain ⟨id, d, found, ofProject, decodes, -⟩ := isOpen
  obtain ⟨b, decodes', after⟩ := wellFormed id d found ofProject
  cases decodes.unique decodes'
  exact after

theorem Aperta.isLocal {a : LeMieAttivita} (isOpen : Aperta idProgetto s a) :
    a.dataScadenza.isUtc = false := by
  obtain ⟨id, d, -, -, decodes, -⟩ := isOpen
  obtain ⟨t, -, same⟩ := decodes.dataScadenza
  rw [same]
  rfl

theorem ultima_massima {lista : List LeMieAttivita} (wellFormed : BenFormata zone idProgetto s)
    (listed : ∀ a, a ∈ lista ↔ Aperta idProgetto s a ∧ di a) :
    Ultima zone idProgetto di s (massima zone lista) := by
  obtain ⟨reached, -, bound⟩ := foldl_avanza lista (inizio zone)
  refine ⟨?_, fun a isOpen kind => bound a ((listed a).mpr ⟨isOpen, kind⟩)⟩
  rcases reached with same | ⟨a, member, same⟩
  · refine .inr ⟨same, fun a isOpen kind => ?_⟩
    -- a deadline of the list would be after the start, which bounds it
    have le := bound a ((listed a).mpr ⟨isOpen, kind⟩)
    rw [same] at le
    exact absurd (isOpen.dopoInizio wellFormed) (not_lt.mpr le)
  · obtain ⟨isOpen, kind⟩ := (listed a).mp member
    exact .inl ⟨a, isOpen, kind, same⟩

/-! ## There is one latest deadline -/

theorem Ultima.isLocal (latest : Ultima zone idProgetto di s date) : date.isUtc = false := by
  rcases latest.raggiunta with ⟨a, isOpen, -, rfl⟩ | ⟨rfl, -⟩
  · exact isOpen.isLocal
  · rfl

theorem Ultima.inizio_le (wellFormed : BenFormata zone idProgetto s)
    (latest : Ultima zone idProgetto di s date) : (inizio zone).micros ≤ date.micros := by
  rcases latest.raggiunta with ⟨a, isOpen, -, rfl⟩ | ⟨rfl, -⟩
  · exact (isOpen.dopoInizio wellFormed).le
  · exact le_refl _

theorem Ultima.mono {fewer : LeMieAttivita → Prop} (wellFormed : BenFormata zone idProgetto s)
    (sub : ∀ a, fewer a → di a) (latest : Ultima zone idProgetto fewer s date)
    (latest' : Ultima zone idProgetto di s other) : date.micros ≤ other.micros := by
  rcases latest.raggiunta with ⟨a, isOpen, kind, rfl⟩ | ⟨rfl, -⟩
  · exact latest'.limite a isOpen (sub a kind)
  · exact latest'.inizio_le wellFormed

theorem Ultima.unique (wellFormed : BenFormata zone idProgetto s)
    (latest : Ultima zone idProgetto di s date) (latest' : Ultima zone idProgetto di s other) :
    date = other :=
  DateTime.eq_of_micros latest.isLocal latest'.isLocal
    (le_antisymm (latest.mono wellFormed (fun _ => id) latest')
      (latest'.mono wellFormed (fun _ => id) latest))

theorem Ultima.mie_le {tutte mie : DateTime} (wellFormed : BenFormata zone idProgetto s)
    (own : UltimaDelleMie zone userId idProgetto s mie)
    (all : UltimaDiTutte zone idProgetto s tutte) : mie.micros ≤ tutte.micros :=
  own.mono wellFormed (fun _ _ => trivial) all

/-! ## What a load finds -/

theorem exists_attivita (wellFormed : BenFormata zone idProgetto s) :
    ∃ tutte, Answers service (TodoRepository.getAttivitaByProgettoId idProgetto) s tutte ∧
      ∀ a, a ∈ tutte ∧ a.completato = false ↔ Aperta idProgetto s a := by
  have readable : ∀ doc ∈ s.trovati .todo [.isEqualTo "progetto" (.string idProgetto)],
      ∃ a, LeMieAttivita.fromFirestore doc.1 (some doc.2) = .ok a := by
    rintro ⟨id, d⟩ listed
    obtain ⟨found, matched⟩ := Store.mem_trovati.mp listed
    obtain ⟨a, decodes, -⟩ := wellFormed id d found (by simpa [Filter.holds] using matched)
    exact ⟨a, LeMieAttivita.fromFirestore_eq_ok.mpr ⟨d, rfl, decodes⟩⟩
  obtain ⟨tutte, decoded⟩ := exists_forall₂ readable
  have read := mapM_of_forall₂ decoded
  refine ⟨tutte, Tasks.answers_getAttivita read, fun a => ⟨?_, ?_⟩⟩
  · rintro ⟨member, notCompleted⟩
    obtain ⟨⟨id, d⟩, listed, decoded⟩ := of_mem_mapM read member
    obtain ⟨_, same, decodes⟩ := LeMieAttivita.fromFirestore_eq_ok.mp decoded
    cases same
    obtain ⟨found, matched⟩ := Store.mem_trovati.mp listed
    exact ⟨id, d, found, by simpa [Filter.holds] using matched, decodes, notCompleted⟩
  · rintro ⟨id, d, found, ofProject, decodes, notCompleted⟩
    have listed : (id, d) ∈ s.trovati .todo [.isEqualTo "progetto" (.string idProgetto)] :=
      Store.mem_trovati.mpr ⟨found, by simpa [Filter.holds] using ofProject⟩
    obtain ⟨b, member, decoded⟩ := mapM_of_mem read listed
    obtain ⟨_, same, decodes'⟩ := LeMieAttivita.fromFirestore_eq_ok.mp decoded
    cases same
    cases decodes.unique decodes'
    exact ⟨member, notCompleted⟩

theorem caricata (di : LeMieAttivita → Prop) {keep : LeMieAttivita → Bool}
    {lista : List LeMieAttivita} {calls : List (Exchange firestore Thrown)} {final : Store}
    (wellFormed : BenFormata zone idProgetto s)
    (run : Runs service ((TodoRepository.getAttivitaByProgettoId idProgetto).bind fun tutte =>
      .done (tutte.filter keep)) s calls (.ok lista) final)
    (kept : ∀ a, keep a = true ↔ a.completato = false ∧ di a) :
    final = s ∧ Ultima zone idProgetto di s (massima zone lista) := by
  obtain ⟨tutte, answered, listed⟩ := exists_attivita wellFormed
  obtain ⟨same, rfl⟩ := (answered.bind (.done (tutte.filter keep) s)).only run
  cases same
  refine ⟨rfl, ultima_massima wellFormed fun a => ?_⟩
  rw [List.mem_filter, kept, ← and_assoc, listed]

theorem exists_ultima (wellFormed : BenFormata zone idProgetto s) :
    ∃ tutte, UltimaDiTutte zone idProgetto s tutte := by
  obtain ⟨tutte, -, listed⟩ := exists_attivita wellFormed
  have kept : ∀ a, a ∈ tutte.filter (fun a => !a.completato) ↔ Aperta idProgetto s a ∧ True := by
    intro a
    rw [← listed, List.mem_filter]
    simp
  exact ⟨_, ultima_massima wellFormed kept⟩

end

section
variable {zone : Zone} {userId idProgetto : String} {s t : LemieAttivita} {mie tutte : DateTime}

theorem carica_leMie (load : Carica zone userId idProgetto .leMie s t)
    (wellFormed : BenFormata zone idProgetto s.store) :
    ∃ mie, UltimaDelleMie zone userId idProgetto s.store mie ∧
      t = { s with dataScadenzaMassimaLeMieTaskNonCompletate := mie }.confronta := by
  cases load with
  | leMie run =>
    obtain ⟨rfl, latest⟩ := caricata (fun a => userId ∈ a.utenti) wellFormed run (by simp)
    exact ⟨_, latest, rfl⟩

theorem carica_nonCompletate (load : Carica zone userId idProgetto .nonCompletate s t)
    (wellFormed : BenFormata zone idProgetto s.store) :
    ∃ tutte, UltimaDiTutte zone idProgetto s.store tutte ∧
      t = { s with dataScadenzaMassimaTaskNonCompletateAll := tutte }.confronta := by
  cases load with
  | nonCompletate run =>
    obtain ⟨rfl, latest⟩ := caricata (fun _ => True) wellFormed run (by simp)
    exact ⟨_, latest, rfl⟩

theorem quiet_caricaCompletate (progettoId : String) :
    Quiet (ProgettoViewModel.caricaTutteLeAttivitaCompletate progettoId) :=
  .bind (quiet_lista _ _ _) fun _ => trivial

theorem carica_completate (load : Carica zone userId idProgetto .completate s t) : t = s := by
  cases load with
  | completate run =>
    cases runs_quiet (quiet_caricaCompletate idProgetto) run.faulty
    rfl

end

/-! ## The later of the two dates -/

/-- What all actions keep. -/
structure Invariante (zone : Zone) (idProgetto : String) (s : LemieAttivita) : Prop where
  benFormata : BenFormata zone idProgetto s.store
  mie : s.dataScadenzaMassimaLeMieTaskNonCompletate.isUtc = false
  tutte : s.dataScadenzaMassimaTaskNonCompletateAll.isUtc = false

section
variable {zone : Zone} {userId idProgetto : String} {s t : LemieAttivita} {mie tutte : DateTime}

theorem confronta_eq_iff {date : DateTime} (holds : Invariante zone idProgetto s)
    (isLocal : date.isUtc = false) : s.confronta.dataScadenzaMassimaTask = date ↔
      s.dataScadenzaMassimaTaskNonCompletateAll.micros ≤ date.micros ∧
        s.dataScadenzaMassimaLeMieTaskNonCompletate.micros ≤ date.micros ∧
        (s.dataScadenzaMassimaTaskNonCompletateAll.micros = date.micros ∨
          s.dataScadenzaMassimaLeMieTaskNonCompletate.micros = date.micros) := by
  unfold LemieAttivita.confronta
  dsimp only
  split
  · next before =>
    have lt := of_decide_eq_true before
    constructor
    · rintro rfl
      exact ⟨lt.le, le_refl _, .inr rfl⟩
    · rintro ⟨-, le, reached⟩
      exact DateTime.eq_of_micros holds.mie isLocal (by omega)
  · next after =>
    have le := not_lt.mp fun before => after (decide_eq_true before)
    constructor
    · rintro rfl
      exact ⟨le_refl _, le, .inl rfl⟩
    · rintro ⟨le', -, reached⟩
      exact DateTime.eq_of_micros holds.tutte isLocal (by omega)

theorem leMie_iff (holds : Invariante zone idProgetto s)
    (own : UltimaDelleMie zone userId idProgetto s.store mie) :
    UltimaDiTutte zone idProgetto s.store
        (LemieAttivita.confronta
          { s with dataScadenzaMassimaLeMieTaskNonCompletate := mie }).dataScadenzaMassimaTask ↔
      BastanoLeMie zone userId idProgetto s := by
  have computed : Invariante zone idProgetto
      { s with dataScadenzaMassimaLeMieTaskNonCompletate := mie } :=
    ⟨holds.benFormata, own.isLocal, holds.tutte⟩
  constructor
  · intro latest tutte mie' all own'
    cases own.unique holds.benFormata own'
    obtain ⟨le, -, reached⟩ := (confronta_eq_iff computed all.isLocal).mp
      (latest.unique holds.benFormata all)
    exact ⟨le, reached⟩
  · intro enough
    obtain ⟨tutte, all⟩ := exists_ultima holds.benFormata
    obtain ⟨le, reached⟩ := enough tutte mie all own
    rw [(confronta_eq_iff computed all.isLocal).mpr ⟨le, own.mie_le holds.benFormata all, reached⟩]
    exact all

theorem nonCompletate_iff (holds : Invariante zone idProgetto s)
    (all : UltimaDiTutte zone idProgetto s.store tutte) :
    UltimaDiTutte zone idProgetto s.store
        (LemieAttivita.confronta
          { s with dataScadenzaMassimaTaskNonCompletateAll := tutte }).dataScadenzaMassimaTask ↔
      BastanoTutte zone idProgetto s := by
  have computed : Invariante zone idProgetto
      { s with dataScadenzaMassimaTaskNonCompletateAll := tutte } :=
    ⟨holds.benFormata, holds.mie, all.isLocal⟩
  constructor
  · intro latest tutte' all'
    exact ((confronta_eq_iff computed all'.isLocal).mp (latest.unique holds.benFormata all')).2.1
  · intro enough
    rw [(confronta_eq_iff computed all.isLocal).mpr ⟨le_refl _, enough tutte all, .inl rfl⟩]
    exact all

theorem ultima_entrambe (holds : Invariante zone idProgetto s) {prima seconda : Scheda}
    {mid : LemieAttivita} (both : [prima, seconda].Perm [.leMie, .nonCompletate])
    (first : Carica zone userId idProgetto prima s mid)
    (second : Carica zone userId idProgetto seconda mid t) :
    UltimaDiTutte zone idProgetto t.store t.dataScadenzaMassimaTask := by
  have orders : prima = .leMie ∧ seconda = .nonCompletate ∨
      prima = .nonCompletate ∧ seconda = .leMie := by
    revert both
    cases prima <;> cases seconda <;> decide
  rcases orders with ⟨rfl, rfl⟩ | ⟨rfl, rfl⟩
  · obtain ⟨mie, own, rfl⟩ := carica_leMie first holds.benFormata
    obtain ⟨tutte, all, rfl⟩ := carica_nonCompletate second holds.benFormata
    have between : Invariante zone idProgetto
        { s with dataScadenzaMassimaLeMieTaskNonCompletate := mie }.confronta :=
      ⟨holds.benFormata, own.isLocal, holds.tutte⟩
    exact (nonCompletate_iff between all).mpr fun _ all => own.mie_le holds.benFormata all
  · obtain ⟨tutte, all, rfl⟩ := carica_nonCompletate first holds.benFormata
    obtain ⟨mie, own, rfl⟩ := carica_leMie second holds.benFormata
    have between : Invariante zone idProgetto
        { s with dataScadenzaMassimaTaskNonCompletateAll := tutte }.confronta :=
      ⟨holds.benFormata, holds.mie, all.isLocal⟩
    refine (leMie_iff between own).mpr fun tutte' mie' all' own' => ?_
    cases all.unique holds.benFormata all'
    exact ⟨le_refl _, .inl rfl⟩

end

/-! ## What an action leaves -/

section
variable {zone : Zone} {userId idProgetto : String} {s dopo : Store} {id : String} {d : Document}

theorem BenFormata.put (wellFormed : BenFormata zone idProgetto s)
    (good : d "progetto" = some (.string idProgetto) →
      ∃ a, LeMieAttivita.Decodes id d a ∧ (inizio zone).micros < a.dataScadenza.micros) :
    BenFormata zone idProgetto (s.put .todo id d) := by
  intro key d' found ofProject
  rw [Store.get_put] at found
  split at found
  · next same =>
    cases found
    rw [same.2]
    exact good ofProject
  · exact wellFormed key d' found ofProject

theorem BenFormata.erase (wellFormed : BenFormata zone idProgetto s) :
    BenFormata zone idProgetto (s.erase .todo id) := by
  intro key d found ofProject
  rw [Store.get_erase] at found
  split at found
  · cases found
  · exact wellFormed key d found ofProject

theorem BenFormata.completa (wellFormed : BenFormata zone idProgetto s)
    (found : s.get .todo id = some d) (completato : Bool) :
    BenFormata zone idProgetto
      (s.put .todo id (d.writes [("completato", .value (.bool completato))])) := by
  refine wellFormed.put fun ofProject => ?_
  rw [Document.writes_one, Function.update_of_ne (by decide)] at ofProject
  obtain ⟨a, decodes, after⟩ := wellFormed id d found ofProject
  exact ⟨_, decodes.write_completato completato, after⟩

theorem benFormata_azione {azione : Azione} {scheda : Scheda}
    {calls : List (Exchange firestore Thrown)} {out : Except Thrown (Option String)}
    (wellFormed : BenFormata zone idProgetto s) (after : azione.DopoInizio zone)
    (run : Runs service (azione.process zone userId idProgetto scheda) s calls out dopo) :
    BenFormata zone idProgetto dopo := by
  cases azione with
  | aggiungi oggi now a =>
    rcases Tasks.runs_viewModel_addTodo run.faulty with rfl | ⟨-, newId, -, rfl⟩
    · exact wellFormed
    · exact wellFormed.put fun _ => ⟨_, LeMieAttivita.decodes_toMap newId _, after⟩
  | modifica oggi now a =>
    simp only [Azione.process, LeMieAttivitaUI.handleModificaTask] at run
    split at run
    · next id named =>
      rcases Tasks.runs_viewModel_updateTodo run.faulty with ⟨rfl, -⟩ | ⟨-, rfl⟩
      · exact wellFormed
      · exact wellFormed.put fun _ => ⟨_, LeMieAttivita.decodes_toMap id _, after⟩
    · obtain ⟨-, -, rfl⟩ := runs_raise_iff.mp run
      exact wellFormed
  | completa id =>
    rcases Tasks.runs_viewModel_completeTodo run.faulty with rfl | ⟨d, found, rfl⟩
    · exact wellFormed
    · exact wellFormed.completa found _
  | elimina id =>
    rcases Tasks.runs_viewModel_deleteTodo run.faulty with rfl | rfl
    · exact wellFormed
    · exact wellFormed.erase

theorem dopo_of_rifiutata {azione : Azione} {scheda : Scheda}
    {calls : List (Exchange firestore Thrown)} {esito : Option String}
    (run : Runs service (azione.process zone userId idProgetto scheda) s calls (.ok esito) dopo)
    (refused : azione.ricarica esito = false) : dopo = s := by
  cases azione with
  | aggiungi oggi now a =>
    cases esito with
    | none => cases refused
    | some message => exact Tasks.runs_viewModel_addTodo_refused run.faulty
  | modifica oggi now a =>
    cases esito with
    | none => cases refused
    | some message =>
      simp only [Azione.process, LeMieAttivitaUI.handleModificaTask] at run
      split at run
      · exact Tasks.runs_viewModel_updateTodo_refused run.faulty
      · cases (runs_raise_iff.mp run).2.1
  | completa id | elimina id => cases refused

end

/-! ## Along the actions on the screen -/

section
variable {zone : Zone} {userId idProgetto : String} {s t : LemieAttivita} {evento : Evento}

theorem Invariante.nuova {store : Store} (wellFormed : BenFormata zone idProgetto store) :
    Invariante zone idProgetto (.nuova zone store) := ⟨wellFormed, rfl, rfl⟩

theorem Invariante.carica {scheda : Scheda} (load : Carica zone userId idProgetto scheda s t)
    (holds : Invariante zone idProgetto s) : Invariante zone idProgetto t := by
  cases scheda with
  | leMie =>
    obtain ⟨mie, own, rfl⟩ := carica_leMie load holds.benFormata
    exact ⟨holds.benFormata, own.isLocal, holds.tutte⟩
  | nonCompletate =>
    obtain ⟨tutte, all, rfl⟩ := carica_nonCompletate load holds.benFormata
    exact ⟨holds.benFormata, holds.mie, all.isLocal⟩
  | completate =>
    rw [carica_completate load]
    exact holds

theorem invariante_passo (holds : Invariante zone idProgetto s)
    (step : Passo zone userId idProgetto s evento t) : Invariante zone idProgetto t := by
  cases step with
  | apri _ load =>
    have loaded := Invariante.carica load holds
    exact ⟨loaded.benFormata, loaded.mie, loaded.tutte⟩
  | tocca _ _ load => exact Invariante.carica load ⟨holds.benFormata, holds.mie, holds.tutte⟩
  | toccaLeMie _ _ first second =>
    exact Invariante.carica second
      (Invariante.carica first ⟨holds.benFormata, holds.mie, holds.tutte⟩)
  | azione _ after run _ load =>
    exact Invariante.carica load
      ⟨benFormata_azione holds.benFormata after run, holds.mie, holds.tutte⟩
  | rifiutata _ after run _ =>
    exact ⟨benFormata_azione holds.benFormata after run, holds.mie, holds.tutte⟩

theorem reale_iff (ready : s.pronta = true) : Reale zone idProgetto s ↔
    UltimaDiTutte zone idProgetto s.store s.dataScadenzaMassimaTask :=
  ⟨fun real => real ready, fun latest _ => latest⟩

def Basta (zone : Zone) (userId idProgetto : String) (s : LemieAttivita) : Scheda → Prop
  | .leMie => BastanoLeMie zone userId idProgetto s
  | .nonCompletate => BastanoTutte zone idProgetto s
  | .completate => UltimaDiTutte zone idProgetto s.store s.dataScadenzaMassimaTask

theorem ultima_carica_iff {scheda : Scheda} (load : Carica zone userId idProgetto scheda s t)
    (holds : Invariante zone idProgetto s) :
    UltimaDiTutte zone idProgetto t.store t.dataScadenzaMassimaTask ↔
      Basta zone userId idProgetto s scheda := by
  cases scheda with
  | leMie =>
    obtain ⟨mie, own, rfl⟩ := carica_leMie load holds.benFormata
    have computed := leMie_iff holds own
    exact computed
  | nonCompletate =>
    obtain ⟨tutte, all, rfl⟩ := carica_nonCompletate load holds.benFormata
    have computed := nonCompletate_iff holds all
    exact computed
  | completate =>
    cases carica_completate load
    exact Iff.rfl

theorem carica_pronta {scheda : Scheda} (load : Carica zone userId idProgetto scheda s t)
    (holds : Invariante zone idProgetto s) : t.pronta = s.pronta := by
  cases scheda with
  | leMie =>
    obtain ⟨mie, -, rfl⟩ := carica_leMie load holds.benFormata
    rfl
  | nonCompletate =>
    obtain ⟨tutte, -, rfl⟩ := carica_nonCompletate load holds.benFormata
    rfl
  | completate => rw [carica_completate load]

theorem reale_passo_iff (holds : Invariante zone idProgetto s) (good : Reale zone idProgetto s)
    (step : Passo zone userId idProgetto s evento t) :
    Reale zone idProgetto t ↔ BastaRicalcolo zone userId idProgetto s evento := by
  cases step with
  | apri _ load => exact (reale_iff rfl).trans (ultima_carica_iff load holds)
  | @tocca _ scheda ready differs load =>
    have before : Invariante zone idProgetto { s with scheda := scheda } :=
      ⟨holds.benFormata, holds.mie, holds.tutte⟩
    rw [reale_iff ((carica_pronta load before).trans ready), ultima_carica_iff load before]
    cases scheda with
    | leMie => exact absurd rfl differs
    | nonCompletate => exact Iff.rfl
    | completate => exact iff_true_intro (good ready)
  | toccaLeMie ready both first second =>
    have before : Invariante zone idProgetto { s with scheda := .leMie } :=
      ⟨holds.benFormata, holds.mie, holds.tutte⟩
    exact iff_true_intro fun _ => ultima_entrambe before both first second
  | @azione _ azione esito _ dopo ready after run reloads load =>
    have before : Invariante zone idProgetto { s with store := dopo } :=
      ⟨benFormata_azione holds.benFormata after run, holds.mie, holds.tutte⟩
    rw [reale_iff ((carica_pronta load before).trans ready), ultima_carica_iff load before]
    simp only [BastaRicalcolo, reloads]
    cases tab : s.scheda with
    | leMie | nonCompletate => exact Iff.rfl
    | completate =>
      constructor
      · intro latest date now
        cases now.unique holds.benFormata (good ready)
        exact latest
      · exact fun same => same _ (good ready)
  | rifiutata ready after run refused =>
    cases dopo_of_rifiutata run refused
    simp only [BastaRicalcolo, refused]
    exact iff_true_intro good

/-- As long as the dates that are computed again are enough for every action, the date that is
handed on is the latest deadline of the open tasks of the project whenever no load is pending;
it is so after one more action just when they are enough for that too. -/
theorem handed_deadline_is_latest {store : Store} (wellFormed : BenFormata zone idProgetto store)
    (run : GuardedRun (Passo zone userId idProgetto) (BastaRicalcolo zone userId idProgetto)
      (.nuova zone store) s) :
    Reale zone idProgetto s ∧ ∀ evento t, Passo zone userId idProgetto s evento t →
      (Reale zone idProgetto t ↔ BastaRicalcolo zone userId idProgetto s evento) := by
  refine run.iff (Invariante zone idProgetto) (Reale zone idProgetto) invariante_passo
    reale_passo_iff (.nuova wellFormed) ?_
  -- the first load of a new screen is pending
  intro ready
  cases ready

end

/-! ## The screen of anna's project, for her and for bruno -/

theorem aperta_storeDiAnna {a : LeMieAttivita} (isOpen : Aperta "p" Tasks.storeDiAnna a) :
    a = Tasks.attivitaDiAnna := by
  obtain ⟨id, d, found, -, decodes, -⟩ := isOpen
  rw [Tasks.storeDiAnna, Store.get_put] at found
  split at found
  · next same =>
    cases found
    cases same.2
    exact decodes.unique Tasks.attivitaDiAnna_decodes
  · cases found

theorem aperta_attivitaDiAnna : Aperta "p" Tasks.storeDiAnna Tasks.attivitaDiAnna :=
  ⟨"t", _, Store.get_put_self _ _ _ _, rfl, Tasks.attivitaDiAnna_decodes, rfl⟩

theorem benFormata_storeDiAnna : BenFormata 0 "p" Tasks.storeDiAnna := by
  have none : BenFormata 0 "p" .empty := fun _ _ found => by cases found
  exact none.put fun _ => ⟨_, Tasks.attivitaDiAnna_decodes, by decide⟩

theorem ultima_storeDiAnna {di : LeMieAttivita → Prop} (kind : di Tasks.attivitaDiAnna) :
    Ultima 0 "p" di Tasks.storeDiAnna Tasks.attivitaDiAnna.dataScadenza where
  raggiunta := .inl ⟨_, aperta_attivitaDiAnna, kind, rfl⟩
  limite a isOpen _ := by rw [aperta_storeDiAnna isOpen]

theorem handed_deadline_is_latest_anna : ∃ s,
    Passo 0 "anna" "p" (.nuova 0 Tasks.storeDiAnna) .apri s ∧ s.pronta = true ∧
    Reale 0 "p" s ∧ ∀ evento t, Passo 0 "anna" "p" s evento t →
      (Reale 0 "p" t ↔ BastaRicalcolo 0 "anna" "p" s evento) := by
  have opened : Passo 0 "anna" "p" (.nuova 0 Tasks.storeDiAnna) .apri _ :=
    .apri rfl (.leMie (.of_runAlone [""] rfl))
  have enough : BastaRicalcolo 0 "anna" "p" (.nuova 0 Tasks.storeDiAnna) .apri := by
    intro tutte mie all own
    cases all.unique benFormata_storeDiAnna (ultima_storeDiAnna trivial)
    cases own.unique benFormata_storeDiAnna (ultima_storeDiAnna (List.mem_singleton.mpr rfl))
    exact ⟨by decide, .inr rfl⟩
  exact ⟨_, opened, rfl,
    handed_deadline_is_latest benFormata_storeDiAnna (.single ⟨.apri, enough, opened⟩)⟩

/-- Bruno, who opens the project and goes on to edit it: the task that is open is anna's. -/
theorem opening_misses_other_tasks : ∃ s,
    BenFormata 0 "p" Tasks.storeDiAnna ∧
    Passo 0 "bruno" "p" (.nuova 0 Tasks.storeDiAnna) .apri s ∧ s.pronta = true ∧
    Aperta "p" s.store Tasks.attivitaDiAnna ∧
    s.dataScadenzaMassimaTask = inizio 0 ∧
    (inizio 0).micros < Tasks.attivitaDiAnna.dataScadenza.micros ∧ ¬ Reale 0 "p" s := by
  refine ⟨_, benFormata_storeDiAnna, .apri rfl (.leMie (.of_runAlone [""] rfl)), rfl,
    aperta_attivitaDiAnna, rfl, by decide, fun real => ?_⟩
  exact absurd ((real rfl).limite _ aperta_attivitaDiAnna trivial) (by decide)

end TeamSync.Screens.LatestDeadline
