import TeamSync.Cloud.Known
import TeamSync.Library.Warrant
import TeamSync.Projects.Abandonment
import TeamSync.Screens.Visits

/-! Who writes a task from the page of a project's tasks. -/

set_option autoImplicit false

namespace TeamSync.Screens.Visits

open Effects Tasks ProgettoViewModel

abbrev Scambi := List (Exchange firestore Thrown)

structure TaskDi (progetto : String) (d : Document) : Prop where
  progetto : d "progetto" = some (.string progetto)
  titolo : ∃ titolo, d "titolo" = some (.string titolo) ∧ titolo ≠ ""

/-- The call changes or deletes this task, which stays in its project. -/
def SulTask (id : String) (a : LeMieAttivita) : Op → Prop
  | .update .todo key data => key = id ∧ ∀ d : Document,
      d.writes data "progetto" = d "progetto" ∧ d.writes data "titolo" = d "titolo"
  | .set .todo key data => key = id ∧ TaskDi a.progetto data
  | .delete .todo key => key = id
  | _ => False

def SoloTask (id : String) (a : LeMieAttivita) (op : Op) : Prop :=
  op.isWrite = true → SulTask id a op

section
variable {id idProgetto utente : String} {seen later : Scambi} {a item : LeMieAttivita}
  {passi : List Passo} {v : Vista}

theorem sulTask_update {campo : String} (write : FieldWrite) (progetto : campo ≠ "progetto")
    (titolo : campo ≠ "titolo") : SulTask id a (.update .todo id [(campo, write)]) := by
  refine ⟨rfl, fun d => ?_⟩
  rw [Document.writes_one, Function.update_of_ne progetto.symm, Function.update_of_ne titolo.symm]
  exact ⟨rfl, rfl⟩

def Elencato (idProgetto : String) (seen : Scambi) (id : String) (a : LeMieAttivita) : Prop :=
  ∃ docs d, ⟨.query .todo [.isEqualTo "progetto" (.string idProgetto)], .ok docs⟩ ∈ seen ∧
    (id, d) ∈ docs ∧ LeMieAttivita.Decodes id d a

theorem Elencato.mono (listed : Elencato idProgetto seen id a) (includes : seen ⊆ later) :
    Elencato idProgetto later id a := by
  obtain ⟨docs, d, asked, member, decodes⟩ := listed
  exact ⟨docs, d, includes asked, member, decodes⟩

def Listata (passi : List Passo) (seen : Scambi) (id : String) (a : LeMieAttivita) : Prop :=
  ∃ idProgetto lista, Passo.carica idProgetto lista ∈ passi ∧ Elencato idProgetto seen id a

theorem Listata.mono (listed : Listata passi seen id a) (includes : seen ⊆ later) :
    Listata passi later id a := by
  obtain ⟨idProgetto, lista, loads, listed⟩ := listed
  exact ⟨idProgetto, lista, loads, listed.mono includes⟩

theorem Listata.id_eq (listed : Listata passi seen id a) : a.id = some id := by
  obtain ⟨_, _, -, _, _, -, -, decodes⟩ := listed
  exact decodes.id

/-- The buttons of an item have been shown for this task: the user is among the assignees of
the task that its state was made for. -/
structure Concessa (passi : List Passo) (utente : String) (seen : Scambi) (id : String)
    (a : LeMieAttivita) : Prop where
  listata : Listata passi seen id a
  assegnata : ∃ key b, Listata passi seen key b ∧ utente ∈ b.utenti
  propria : SenzaRiuso passi → utente ∈ a.utenti

theorem Concessa.mono (granted : Concessa passi utente seen id a) (includes : seen ⊆ later) :
    Concessa passi utente later id a where
  listata := granted.listata.mono includes
  assegnata :=
    have ⟨key, b, listed, assegnato⟩ := granted.assegnata
    ⟨key, b, listed.mono includes, assegnato⟩
  propria := granted.propria

/-! ## Reads -/

section
variable {warrant : Scambi → Op → Prop} (free : ∀ seen op, op.isWrite = false → warrant seen op)

include free

theorem warranted_of_quiet {A : Type} {p : App A} (quiet : Quiet p) :
    p.Warranted warrant (fun _ _ => True) seen :=
  .of_onlyCalls quiet fun later op _ read => free later op read

theorem warranted_getAttivita (idProgetto : String) (seen : Scambi) :
    (TodoRepository.getAttivitaByProgettoId idProgetto).Warranted warrant
      (fun seen items => ∀ a ∈ items, ∃ id, Elencato idProgetto seen id a) seen := by
  have nothing : ∀ later : Scambi, (Process.done [] : App (List LeMieAttivita)).Warranted warrant
      (fun seen items => ∀ a ∈ items, ∃ id, Elencato idProgetto seen id a) later :=
    fun _ a member => by cases member
  refine ⟨free _ _ rfl, fun reply => ?_⟩
  cases reply with
  | error e => exact nothing _
  | ok docs =>
    refine .rescue (.ofExcept fun items read a shown => ?_) fun _ later _ => nothing later
    obtain ⟨⟨id, d⟩, listed, decoded⟩ := of_mem_mapM read shown
    obtain ⟨_, same, decodes⟩ := LeMieAttivita.fromFirestore_eq_ok.mp decoded
    cases same
    exact ⟨id, docs, d, List.mem_append_right _ List.mem_cons_self, listed, decodes⟩

theorem warranted_carica (lista : Lista) :
    (lista.carica idProgetto utente).Warranted warrant
      (fun seen items => ∀ a ∈ items, ∃ id, Elencato idProgetto seen id a) seen := by
  cases lista with
  | leMie | completate | nonCompletate =>
    exact .bind (warranted_getAttivita free idProgetto seen) fun items later _ listed a shown =>
      listed a (List.mem_of_mem_filter shown)

end

theorem quiet_scriviUtenti (size : Nat) (utenti : List String) (contatore : Nat)
    (listaUtenti : String) : Quiet (TodoItem.scriviUtenti size utenti contatore listaUtenti) := by
  induction utenti generalizing contatore listaUtenti with
  | nil => trivial
  | cons idUtente utenti ih =>
    refine .bind (quiet_ottieniUtente idUtente) fun persona => ?_
    cases persona with
    | none => exact ih _ _
    | some persona =>
      dsimp only
      split <;> exact ih _ _

theorem quiet_leggiProgetto (progettoId : String) :
    Quiet (RepositoryProgetto.getProgettoById progettoId) := by
  refine .rescue (.bind (.perform (I := firestore) rfl) fun found => ?_) fun _ => trivial
  cases found with
  | none => trivial
  | some data => exact .ofExcept _

theorem quiet_getProgettoById (progettoId : String) : Quiet (getProgettoById progettoId) :=
  .rescue (quiet_leggiProgetto progettoId) fun _ => trivial

theorem quiet_apri (idProgetto : String) : Quiet (apri idProgetto) := by
  refine .bind (quiet_getProgettoById idProgetto) fun progetto => ?_
  refine .bind (quiet_getProgettoById idProgetto) fun riletto => ?_
  cases progetto <;> cases riletto <;> trivial

/-! ## Gestures -/

theorem SoloTask.of_quiet {A : Type} {p : App A} (quiet : Quiet p) :
    p.OnlyCalls (SoloTask id a) :=
  Process.OnlyCalls.mono quiet fun _ read write => by cases read.symm.trans write

theorem soloTask_chiama (taskId : String) (call : Delega) :
    (DelegaTask.chiama taskId call).OnlyCalls (SoloTask taskId a) := by
  have written : ∀ utenti : List String, (update .todo taskId
      [("utenti", .value (.strings utenti))]).OnlyCalls (SoloTask taskId a) := fun utenti =>
    .perform (I := firestore) fun _ => sulTask_update _ (by decide) (by decide)
  cases call with
  | aggiungi user =>
    refine .rescue (.rescue (.bind (.perform (I := firestore) fun write => by cases write)
      fun found => ?_) fun _ => trivial) fun _ => trivial
    exact .bind (.ofExcept _) fun _ => written _
  | rimuovi user =>
    refine .rescue (.rescue (.bind (.perform (I := firestore) fun write => by cases write)
      fun found => ?_) fun _ => trivial) fun _ => trivial
    refine .bind (.ofExcept _) fun a => ?_
    dsimp only
    split
    · refine .bind (written _) fun _ => ?_
      split
      · exact .rescue (.perform (I := firestore) fun _ => rfl) fun _ => trivial
      · trivial
    · trivial

theorem soloTask_premiTutti (taskId : String) (utenti : List ProfiloUtente)
    (tocchi : List (Nat × Bool)) :
    (premiTutti taskId utenti tocchi).OnlyCalls (SoloTask taskId a) := by
  induction tocchi with
  | nil => trivial
  | cons tocco altri ih =>
    refine .bind ?_ fun _ => ih
    unfold premi
    split
    · exact soloTask_chiama taskId _
    · trivial

theorem soloTask_delegatask (item : LeMieAttivita) (taskId : String)
    (tocchi : List (Nat × Bool)) :
    (delegatask item taskId tocchi).OnlyCalls (SoloTask taskId a) := by
  refine .bind (SoloTask.of_quiet (quiet_getProgettoById _)) fun progetto => ?_
  cases progetto with
  | none => trivial
  | some progetto =>
    exact .bind (SoloTask.of_quiet (quiet_getPartecipantiByIds _)) fun utenti =>
      soloTask_premiTutti taskId utenti tocchi

theorem soloTask_compi (gesto : Gesto) (dataScadenzaProgetto : DateTime)
    (named : item.id = some id) :
    (gesto.compi dataScadenzaProgetto item).OnlyCalls (SoloTask id item) := by
  cases gesto with
  | elimina =>
    simp only [Gesto.compi, named]
    exact .bind (.rescue (.bind (.rescue (.perform (I := firestore) fun _ => rfl) fun _ => trivial)
      fun _ => trivial) fun _ => trivial) fun _ => trivial
  | completa isClickedCompletate =>
    simp only [Gesto.compi, named]
    exact .bind (.rescue (.bind (.rescue (.perform (I := firestore) fun _ =>
      sulTask_update _ (by decide) (by decide)) fun _ => trivial) fun _ => trivial)
      fun _ => trivial) fun _ => trivial
  | modifica c =>
    have target : ((dialogo item dataScadenzaProgetto c).onSave c.now₁).id = some id := named
    refine .bind ?_ fun _ => trivial
    simp only [LeMieAttivitaUI.handleModificaTask, target, LeMieAttivitaViewModel.updateTodo]
    split
    · trivial
    next intitolato =>
      split
      · trivial
      · refine .rescue (.bind (.rescue (.perform (I := firestore) fun _ => ⟨rfl, rfl, _, rfl, ?_⟩)
          fun _ => trivial) fun _ => trivial) fun _ => trivial
        simpa [LeMieAttivita.new] using intitolato
  | delega tocchi =>
    simp only [Gesto.compi, named]
    exact soloTask_delegatask item id tocchi

/-! ## What a visit keeps -/

/-- All the tasks on the device have been listed, and where there are buttons they have been
decided for a task of the user. -/
structure Vista.Regge (passi : List Passo) (utente : String) (seen : Scambi) (v : Vista) :
    Prop where
  caricate : ∀ c ∈ v.caricate, ∀ a ∈ c.2, ∃ id, Listata passi seen id a
  attivita : ∀ lista, ∀ a ∈ v.attivita lista, ∃ id, Listata passi seen id a
  items : ∀ t ∈ v.items, t.1.modifica = true → ∃ id, Concessa passi utente seen id t.1.item
  aperte : ∀ x ∈ v.aperte, ∃ id, Concessa passi utente seen id x.1

theorem Vista.Regge.mono (holds : v.Regge passi utente seen) (includes : seen ⊆ later) :
    v.Regge passi utente later where
  caricate c loaded a member := (holds.caricate c loaded a member).imp fun _ listed =>
    listed.mono includes
  attivita lista a member := (holds.attivita lista a member).imp fun _ listed =>
    listed.mono includes
  items t member shown := (holds.items t member shown).imp fun _ granted => granted.mono includes
  aperte x member := (holds.aperte x member).imp fun _ granted => granted.mono includes

theorem regge_vuota : Vista.vuota.Regge passi utente [] where
  caricate := List.forall_mem_nil _
  attivita _ := List.forall_mem_nil _
  items := List.forall_mem_nil _
  aperte := List.forall_mem_nil _

section
variable {warrant : Scambi → Op → Prop} (free : ∀ seen op, op.isWrite = false → warrant seen op)
  (gestures : ∀ (gesto : Gesto) (dataScadenzaProgetto : DateTime) {seen : Scambi} {id : String}
    {a : LeMieAttivita}, Concessa passi utente seen id a →
      (gesto.compi dataScadenzaProgetto a).Warranted warrant (fun _ _ => True) seen)

include free

theorem warranted_fetchUsers (item : LeMieAttivita) :
    (TodoItem.fetchUsers (some utente) item).Warranted warrant
      (fun _ mostrato => mostrato.item = item ∧ (mostrato.modifica = true → utente ∈ item.utenti))
      seen :=
  .bind (warranted_of_quiet free (quiet_scriviUtenti _ _ _ _)) fun _ _ _ _ =>
    ⟨rfl, fun modifica => by simpa using modifica⟩

/-- The buttons are decided for the task that is shown when the state is made. -/
theorem regge_initState (holds : v.Regge passi utente seen) (pagina : Nat) (lista : Lista)
    (posto : Nat) : (Passo.esegui utente v (.initState pagina lista posto)).Warranted warrant
      (fun later v' => v'.Regge passi utente later) seen := by
  simp only [Passo.esegui]
  split
  · next a _ shown =>
    refine .rescue (.bind (warranted_fetchUsers free a) fun item later more promised =>
      { holds.mono more with items := fun t listed modifica => ?_ })
      fun _ later more => holds.mono more
    rcases List.mem_append.mp listed with old | new
    · exact (holds.mono more).items t old modifica
    · cases List.mem_singleton.mp new
      obtain ⟨same, assegnato⟩ := promised
      obtain ⟨id, found⟩ := (holds.mono more).attivita lista a (List.mem_of_getElem? shown)
      rw [same]
      exact ⟨id, found, ⟨id, a, found, assegnato modifica⟩, fun _ => assegnato modifica⟩
  · exact holds

include gestures

/-- What one thing that happens on the device keeps. -/
theorem regge_passo {passo : Passo} (member : passo ∈ passi)
    (holds : v.Regge passi utente seen) :
    (passo.esegui utente v).Warranted warrant
      (fun later v' => v'.Regge passi utente later) seen := by
  cases passo with
  | apre idProgetto =>
    exact .bind (warranted_of_quiet free (quiet_apri idProgetto)) fun aperta later more _ =>
      { holds.mono more with }
  | carica idProgetto lista =>
    refine .bind (warranted_carica free lista) fun items later more listed =>
      { holds.mono more with caricate := fun c loaded => ?_ }
    rcases List.mem_append.mp loaded with old | new
    · exact (holds.mono more).caricate c old
    · cases List.mem_singleton.mp new
      exact fun a shown => (listed a shown).imp fun id found => ⟨idProgetto, lista, member, found⟩
  | mostra caricata =>
    simp only [Passo.esegui]
    split
    · next lista items loaded =>
      refine { holds with attivita := fun other => ?_ }
      by_cases same : other = lista
      · subst same
        simp only [Function.update_self]
        exact holds.caricate _ (List.mem_of_getElem? loaded)
      · simp only [Function.update_of_ne same]
        exact holds.attivita other
    · exact holds
  | initState pagina lista posto => exact regge_initState free holds pagina lista posto
  | didUpdateWidget item lista posto =>
    simp only [Passo.esegui]
    split
    · next stato _ a kept shown =>
      refine { holds with items := fun t listed modifica => ?_ }
      rcases List.mem_or_eq_of_mem_set listed with old | rfl
      · exact holds.items t old modifica
      · -- the state keeps its buttons, whatever task it shows now
        obtain ⟨_, granted⟩ := holds.items _ (List.mem_of_getElem? kept) modifica
        obtain ⟨id, found⟩ := holds.attivita lista a (List.mem_of_getElem? shown)
        exact ⟨id, found, granted.assegnata, fun fresh => absurd member (fresh item lista posto)⟩
    · exact holds
  | tocca item =>
    simp only [Passo.esegui]
    split
    · next stato dataScadenzaProgetto kept =>
      split
      · next modifica =>
        refine { holds with aperte := fun x opened => ?_ }
        rcases List.mem_append.mp opened with old | new
        · exact holds.aperte x old
        · cases List.mem_singleton.mp new
          exact holds.items _ (List.mem_of_getElem? kept) modifica
      · exact holds
    · exact holds
  | compie aperta gesto =>
    simp only [Passo.esegui]
    split
    · next a dataScadenzaProgetto opened =>
      obtain ⟨id, granted⟩ := holds.aperte _ (List.mem_of_getElem? opened)
      exact .rescue (.bind (gestures gesto dataScadenzaProgetto granted)
        fun _ later more _ => holds.mono more) fun _ later more => holds.mono more
    · exact holds

/-- Where the gestures are warranted for the tasks whose buttons are shown, the visit is. -/
theorem warranted_visita : (visita utente passi).Warranted warrant (fun _ _ => True) [] := by
  have rest : ∀ rest ⊆ passi, ∀ {v seen}, Vista.Regge passi utente seen v →
      (svolgi utente rest v).Warranted warrant (fun _ _ => True) seen := by
    intro rest
    induction rest with
    | nil => exact fun _ {_ _} _ => trivial
    | cons passo rest ih =>
      intro among v seen holds
      obtain ⟨member, among⟩ := List.cons_subset.mp among
      exact .bind (regge_passo free gestures member holds) fun _ _ _ holds' => ih among holds'
  exact rest passi (List.Subset.refl _) regge_vuota

end

def Permesso (passi : List Passo) (utente : String) (seen : Scambi) (op : Op) : Prop :=
  op.isWrite = true → ∃ id a, SulTask id a op ∧ Concessa passi utente seen id a

theorem permessa_visita (utente : String) (passi : List Passo) :
    (visita utente passi).Warranted (Permesso passi utente) (fun _ _ => True) [] := by
  refine warranted_visita (fun _ _ read write => by cases read.symm.trans write) ?_
  intro gesto dataScadenzaProgetto seen id a granted
  refine .of_onlyCalls (soloTask_compi gesto dataScadenzaProgetto granted.listata.id_eq) ?_
  exact fun later op more solo write => ⟨id, a, solo write, granted.mono more⟩

end

/-- The task is stored in a project for which the visit loads a list. -/
def Mostrabile (passi : List Passo) (id : String) (a : LeMieAttivita) (s : Store) : Prop :=
  ∃ idProgetto lista d, Passo.carica idProgetto lista ∈ passi ∧ s.get .todo id = some d ∧
    d "progetto" = some (.string idProgetto) ∧ LeMieAttivita.Decodes id d a

section
variable {ι : Type} [DecidableEq ι] {pool : ι → App Unit} {s : Store}
  {guard : Config ι firestore Thrown Store Unit → ι → Prop}
  {c : Config ι firestore Thrown Store Unit}

theorem Elencato.moment (reach : Reaches network guard (.start s pool) c) {i : ι}
    {idProgetto id : String} {a : LeMieAttivita} (listed : Elencato idProgetto (c.own i) id a) :
    SomeMoment network guard (.start s pool) c fun store => ∃ d, store.get .todo id = some d ∧
      d "progetto" = some (.string idProgetto) ∧ LeMieAttivita.Decodes id d a := by
  obtain ⟨docs, d, asked, listed, decodes⟩ := listed
  obtain ⟨holds, mid, before, rest, stored⟩ :=
    trovato_moment reach (Config.mem_own.mp asked) listed
  exact ⟨mid, before, rest, d, stored, by simpa [Filter.holds] using holds, decodes⟩

theorem Listata.moment (reach : Reaches network guard (.start s pool) c) {i : ι}
    {passi : List Passo} {id : String} {a : LeMieAttivita}
    (listed : Listata passi (c.own i) id a) :
    SomeMoment network guard (.start s pool) c (Mostrabile passi id a) := by
  obtain ⟨idProgetto, lista, loads, listed⟩ := listed
  obtain ⟨mid, before, rest, d, stored, progetto, decodes⟩ := listed.moment reach
  exact ⟨mid, before, rest, idProgetto, lista, d, loads, stored, progetto, decodes⟩

end

def paginaDiAnna : Store := Projects.storeConProgetto.put .todo "t" attivitaDiAnna.toMap

def allaPrima (idProgetto : String) : List Passo :=
  [.apre idProgetto, .carica idProgetto .leMie, .mostra 0, .initState 0 .leMie 0, .tocca 0]

/-- The state of her task is given bruno's, and she deletes that one. -/
example : ∃ c : Config Unit firestore Thrown Store Unit,
    (Config.start (paginaDiAnna.put .todo "u" { attivitaDiAnna with utenti := ["bruno"] }.toMap)
      fun _ => visita "anna" [.apre "p", .carica "p" .nonCompletate, .mostra 0,
        .initState 0 .nonCompletate 1, .didUpdateWidget 0 .nonCompletate 0, .tocca 0,
        .compie 0 .elimina]).run network
      [((), .inr ""), ((), .inr ""), ((), .inr ""), ((), .inr "")] = some c ∧
    (c.pool ()).nextOp = some (.delete .todo "u") := ⟨_, rfl, rfl⟩

end TeamSync.Screens.Visits
