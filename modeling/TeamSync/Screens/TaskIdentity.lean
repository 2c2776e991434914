import TeamSync.Cloud.Births
import TeamSync.Screens.Authorization
import TeamSync.Team.Documents

/-! What a task keeps for ever: its project, and that it has a title. -/

set_option autoImplicit false

namespace TeamSync.Screens.Visits

open Effects Projects Tasks Team

/-- The calls that store a whole task again. -/
def RiscriveTask : TeamCall → Prop
  | .updateTodo .. | .updateDataScadenzaTodo .. => True
  | _ => False

/-- A client visits the pages of the tasks, or makes another call. Only the
visits store a whole task again. -/
inductive Cliente where
  | visita (utente : String) (passi : List Passo)
  | chiama (call : TeamCall) (altra : ¬ RiscriveTask call)

def Cliente.process : Cliente → App Unit
  | .visita utente passi => Visits.visita utente passi
  | .chiama call _ => call.process

/-! ## Projects apart from tasks -/

section
variable {A : Type}

def ScriveTask : Op → Prop
  | .add .todo _ | .set .todo _ _ | .update .todo _ _ | .delete .todo _ => True
  | _ => False

abbrev SenzaTask (p : App A) : Prop := p.OnlyCalls fun op : Op => ¬ ScriveTask op

theorem senzaTask_of_quiet {p : App A} (quiet : Quiet p) : SenzaTask p := by
  refine Process.OnlyCalls.mono quiet fun op read writes => ?_
  cases op with
  | get | query | callback | onSuccess => exact writes
  | add | set | update | delete => cases read

theorem senzaTask_perform {op : Op} (outside : ¬ ScriveTask op) :
    SenzaTask (Process.perform (I := firestore) op) :=
  .perform outside

theorem senzaTask_unisciti (userId codice : String) :
    SenzaTask (ProgettoViewModel.aggiungiPartecipanteConCodice userId codice) := by
  have searched : Quiet (RepositoryProgetto.getProgettoIdByCodice codice) :=
    .rescue (.bind (.perform rfl) fun _ => trivial) fun _ => trivial
  have listed : Quiet (RepositoryProgetto.getProgettiUtente userId) := quiet_lista _ _ _
  refine .rescue (.bind (senzaTask_of_quiet searched) fun progettoId =>
    .bind (senzaTask_of_quiet listed) fun progettiUtente => ?_) fun _ => trivial
  cases progettoId with
  | none => trivial
  | some progettoId =>
    dsimp only
    split
    · trivial
    · exact .bind (senzaTask_perform id) fun _ => trivial

theorem senzaTask_abbandonaProgetto (userId : Option String) (progettoId : String) :
    SenzaTask (ProgettoViewModel.abbandonaProgetto userId progettoId) := by
  cases userId with
  | none => trivial
  | some userId =>
    have counted : Quiet (RepositoryProgetto.getPartecipantiDelProgetto progettoId) := by
      refine .bind (.perform rfl) fun found => ?_
      cases found with
      | none => trivial
      | some data => exact .ofExcept _
    have deleted : SenzaTask (RepositoryProgetto.eliminaProgetto progettoId) :=
      .rescue (senzaTask_perform id) fun _ => trivial
    have told : ∀ eliminato, SenzaTask (callback eliminato) := fun eliminato =>
      senzaTask_perform id
    refine .rescue (.bind (senzaTask_perform id) fun found => ?_) fun _ => trivial
    dsimp only
    split
    · trivial
    · refine .bind (senzaTask_perform id) fun _ =>
        .bind (senzaTask_of_quiet counted) fun _ => ?_
      split
      · exact .bind deleted fun _ => told true
      · exact told false

theorem senzaTask_aggiornaProgetto (vm : ProgettoViewModel) (progettoId nome descrizione : String)
    (dataScadenza : DateTime) (priorita : Priorita) (completato : Bool) (voto : String)
    (dataConsegna : DateTime) :
    SenzaTask (vm.aggiornaProgetto progettoId nome descrizione dataScadenza priorita completato
      voto dataConsegna) := by
  have written : ∀ progetto, SenzaTask (RepositoryProgetto.aggiornaProgetto progetto) := by
    intro progetto
    unfold RepositoryProgetto.aggiornaProgetto
    split
    · exact senzaTask_perform id
    · trivial
  refine .bind (senzaTask_of_quiet (quiet_leggiProgetto progettoId)) fun found => ?_
  cases found with
  | none => trivial
  | some progetto =>
    refine .bind (written _) fun _ => ?_
    split
    · exact senzaTask_of_quiet (quiet_caricaProgettiUtente vm _)
    · trivial

theorem senzaTask_suProgetto (call : ProjectCall) : SenzaTask call.process := by
  match call with
  | .membro (.unisciti userId codice) => exact .bind (senzaTask_unisciti ..) fun _ => trivial
  | .membro (.abbandona userId progettoId) =>
    exact .bind (senzaTask_abbandonaProgetto ..) fun _ => trivial
  | .aggiorna .. => exact .bind (senzaTask_aggiornaProgetto ..) fun _ => trivial

theorem senzaTask_addProgetto (vm : ProgettoViewModel) (now : DateTime)
    (progettoId uuid nome descrizione : String) (dataScadenza : DateTime) (priorita : Priorita)
    (partecipanti : List String) :
    SenzaTask (vm.addProgetto now progettoId uuid nome descrizione dataScadenza priorita
      partecipanti) :=
  .rescue (.bind (.bind (.rescue (senzaTask_perform id) fun _ => trivial) fun _ => trivial)
    fun _ => .bind (senzaTask_perform id) fun _ => trivial) fun _ => trivial

end

/-! ## What everyone keeps -/

def contratto (nato : String → String → Prop) : Contract firestore Thrown where
  guarantee
    | .add .todo data => ∃ p, TaskDi p data
    | .set .todo id data => ∃ p, nato id p ∧ TaskDi p data
    | .update .todo _ data => ∀ d : Document,
        d.writes data "progetto" = d "progetto" ∧ d.writes data "titolo" = d "titolo"
    | _ => True
  rely
    | .query .todo _, reply => ∀ docs, reply = .ok docs → ∀ id d, (id, d) ∈ docs →
        ∃ p, nato id p ∧ TaskDi p d
    | _, _ => True

def AlloroPosto (nato : String → String → Prop) (s : Store) : Prop :=
  ∀ id d, s.get .todo id = some d → ∃ p, nato id p ∧ TaskDi p d

def ammesso (nato : String → String → Prop) (x : Exchange firestore Thrown) : Prop :=
  ∀ data id p, x = ⟨.add .todo data, .ok id⟩ → TaskDi p data → nato id p

section
variable {nato : String → String → Prop} {s : Store} {id p : String} {d : Document}

theorem TaskDi.writes {data : List (String × FieldWrite)} (task : TaskDi p d)
    (same : d.writes data "progetto" = d "progetto" ∧ d.writes data "titolo" = d "titolo") :
    TaskDi p (d.writes data) := by
  refine ⟨same.1.trans task.progetto, ?_⟩
  rw [same.2]
  exact task.titolo

theorem TaskDi.unique {p' : String} (task : TaskDi p d) (task' : TaskDi p' d) : p = p' := by
  have same := task.progetto.symm.trans task'.progetto
  cases same
  rfl

theorem AlloroPosto.put (holds : AlloroPosto nato s) (born : nato id p) (task : TaskDi p d) :
    AlloroPosto nato (s.put .todo id d) := by
  intro key d' found
  rw [Store.get_put] at found
  split at found
  · next same =>
    cases same.2
    cases found
    exact ⟨p, born, task⟩
  · exact holds key d' found

theorem AlloroPosto.other {c : CollectionName} (holds : AlloroPosto nato s) (differ : .todo ≠ c) :
    AlloroPosto nato (s.put c id d) := by
  intro key d' found
  rw [Store.get_put_other differ] at found
  exact holds key d' found

theorem AlloroPosto.erase {c : CollectionName} (holds : AlloroPosto nato s) :
    AlloroPosto nato (s.erase c id) := by
  intro key d' found
  rw [Store.get_erase] at found
  split at found
  · cases found
  · exact holds key d' found

theorem network_fulfils (nato : String → String → Prop) :
    network.Fulfils (contratto nato) (AlloroPosto nato) (ammesso nato) := by
  intro choice op s reply final holds guaranteed admitted answered
  cases op with
  | get c id | callback eliminato | onSuccess key =>
    cases network_of_not_isWrite rfl answered
    exact ⟨trivial, holds⟩
  | query c filters =>
    cases network_of_not_isWrite rfl answered
    refine ⟨?_, holds⟩
    cases c with
    | progetti | utenti => trivial
    | todo =>
      rintro docs rfl id d listed
      exact holds id d (network_query answered listed)
  | delete c id =>
    rcases network_delete answered with ⟨-, -, rfl⟩ | ⟨-, rfl⟩
    · exact ⟨trivial, holds⟩
    · exact ⟨trivial, holds.erase⟩
  | add c data =>
    refine ⟨trivial, ?_⟩
    rcases network_add answered with ⟨-, -, rfl⟩ | ⟨newId, -, rfl, rfl⟩
    · exact holds
    · cases c with
      | progetti | utenti => exact holds.other (by decide)
      | todo =>
        obtain ⟨p, task⟩ := guaranteed
        exact holds.put (admitted data newId p rfl task) task
  | set c id data =>
    refine ⟨trivial, ?_⟩
    rcases network_set answered with ⟨-, -, rfl⟩ | ⟨-, rfl⟩
    · exact holds
    · cases c with
      | progetti | utenti => exact holds.other (by decide)
      | todo =>
        obtain ⟨p, born, task⟩ := guaranteed
        exact holds.put born task
  | update c id data =>
    refine ⟨trivial, ?_⟩
    rcases network_update answered with ⟨-, -, rfl⟩ | ⟨d, found, -, rfl⟩
    · exact holds
    · cases c with
      | progetti | utenti => exact holds.other (by decide)
      | todo =>
        obtain ⟨p, born, task⟩ := holds id d found
        exact holds.put born (task.writes (guaranteed d))

end

/-! ## The clients -/

section
variable {nato : String → String → Prop} {A : Type}

theorem respects_visita (utente : String) (passi : List Passo) :
    (visita utente passi).Respects (contratto nato) fun _ => True := by
  refine (permessa_visita utente passi).respects (fun seen op relied permesso => ?_)
    fun x member => by cases member
  have write : op.isWrite = true → ∃ id a, SulTask id a op ∧ nato id a.progetto := by
    intro writes
    obtain ⟨id, a, task, granted⟩ := permesso writes
    obtain ⟨_, _, -, docs, d, asked, listed, decodes⟩ := granted.listata
    obtain ⟨p, born, di⟩ := relied _ asked docs rfl id d listed
    have read := decodes.progetto
    rw [di.progetto] at read
    cases read
    exact ⟨id, a, task, born⟩
  cases op with
  | get | query | callback | onSuccess | delete => trivial
  | add c data =>
    obtain ⟨id, a, task, -⟩ := write rfl
    exact task.elim
  | set c id data =>
    obtain ⟨id', a, task, born⟩ := write rfl
    cases c with
    | progetti | utenti => trivial
    | todo =>
      obtain ⟨rfl, di⟩ := task
      exact ⟨_, born, di⟩
  | update c id data =>
    obtain ⟨id', a, task, -⟩ := write rfl
    cases c with
    | progetti | utenti => trivial
    | todo => exact task.2

abbrev Fermo (nato : String → String → Prop) (p : App A) : Prop :=
  p.OnlyCalls (contratto nato).guarantee

theorem fermo_of_quiet {p : App A} (quiet : Quiet p) : Fermo nato p := by
  refine Process.OnlyCalls.mono quiet fun op read => ?_
  cases op <;> trivial

theorem fermo_addTodo (zone : Zone) (oggi now : DateTime) (titolo descrizione : String)
    (dataScadenza : DateTime) (completato : Bool) (proprietario progetto : String)
    (priorita : Priorita) :
    Fermo nato (LeMieAttivitaViewModel.addTodo zone oggi now titolo descrizione dataScadenza
      completato proprietario progetto priorita) := by
  unfold LeMieAttivitaViewModel.addTodo
  split
  · trivial
  next intitolato =>
    split
    · trivial
    · refine .rescue (.bind (.rescue (.bind (.perform (I := firestore) ⟨progetto, rfl, _, rfl, ?_⟩)
        fun _ => trivial) fun _ => trivial) fun _ => trivial) fun _ => trivial
      simpa [LeMieAttivita.new] using intitolato

theorem fermo_delega (id : String) (call : Delega) : Fermo nato (call.process id) := by
  have written : ∀ utenti : List String,
      Fermo nato (update .todo id [("utenti", .value (.strings utenti))]) := fun utenti =>
    .perform (I := firestore) fun d => ⟨rfl, rfl⟩
  cases call with
  | aggiungi user =>
    refine .rescue (.bind (.perform (I := firestore) trivial) fun found => ?_) fun _ => trivial
    exact .bind (.ofExcept _) fun _ => written _
  | rimuovi user =>
    have deleted : Fermo nato (TodoRepository.deleteTodo id) :=
      .rescue (.perform (I := firestore) trivial) fun _ => trivial
    refine .rescue (.bind (.perform (I := firestore) trivial) fun found => ?_) fun _ => trivial
    refine .bind (.ofExcept _) fun a => ?_
    dsimp only
    split
    · refine .bind (written _) fun _ => ?_
      split
      · exact deleted
      · trivial
    · trivial

theorem fermo_of_senzaTask {p : App A} (apart : SenzaTask p) : Fermo nato p := by
  refine Process.OnlyCalls.mono apart fun op outside => ?_
  cases op with
  | get | query | delete | callback | onSuccess => trivial
  | add c data | set c id data | update c id data =>
    cases c with
    | progetti | utenti => trivial
    | todo => exact absurd trivial outside

theorem fermo_process {call : TeamCall} (altra : ¬ RiscriveTask call) :
    Fermo nato call.process := by
  match call with
  | .suProgetto call =>
    exact fermo_of_senzaTask (.bind (senzaTask_suProgetto call) fun _ => trivial)
  | .addProgetto .. => exact fermo_of_senzaTask (.bind (senzaTask_addProgetto ..) fun _ => trivial)
  | .getAttivitaByProgettoId progettoId => exact fermo_of_quiet (quiet_getAttivita progettoId)
  | .addTodo .. => exact .bind (fermo_addTodo ..) fun _ => trivial
  | .updateTodo .. => exact absurd trivial altra
  | .updateDataScadenzaTodo .. => exact absurd trivial altra
  | .completeTodo id completato =>
    exact .bind (.rescue (.bind (.rescue (.perform (I := firestore) fun d => ⟨rfl, rfl⟩)
      fun _ => trivial) fun _ => trivial) fun _ => trivial) fun _ => trivial
  | .delega id call => exact fermo_delega id call
  | .deleteTodo id =>
    exact .bind (.rescue (.bind (.rescue (.perform (I := firestore) trivial) fun _ => trivial)
      fun _ => trivial) fun _ => trivial) fun _ => trivial

theorem respects_cliente (cliente : Cliente) :
    cliente.process.Respects (contratto nato) fun _ => True := by
  cases cliente with
  | visita utente passi => exact respects_visita utente passi
  | chiama call altra => exact .of_onlyCalls (fermo_process altra)

end

/-! ## The project of a task -/

section
variable {ι : Type} [DecidableEq ι] {clienti : ι → Cliente} {s : Store}
  {guard : Config ι firestore Thrown Store Unit → ι → Prop}
  {c : Config ι firestore Thrown Store Unit} {id p p' : String}

def NatoIn (s : Store) (trace : List (ι × Exchange firestore Thrown)) (id p : String) : Prop :=
  (∃ d, s.get .todo id = some d ∧ TaskDi p d) ∨
    ∃ data, Aggiunto trace .todo id data ∧ TaskDi p data

theorem NatoIn.unique (reach : Reaches network guard (.start s fun i => (clienti i).process) c)
    (born : NatoIn s c.trace id p) (born' : NatoIn s c.trace id p') : p = p' := by
  rcases born with ⟨d, stored, task⟩ | ⟨data, added, task⟩
  · rcases born' with ⟨d', stored', task'⟩ | ⟨data', added', -⟩
    · cases stored.symm.trans stored'
      exact task.unique task'
    · exact absurd (Store.used_of_get stored) (added'.fresh reach)
  · rcases born' with ⟨d', stored', -⟩ | ⟨data', added', task'⟩
    · exact absurd (Store.used_of_get stored') (added.fresh reach)
    · cases added.unique reach added'
      exact task.unique task'

theorem alloroPosto_of_reaches
    (reach : Reaches network guard (.start s fun i => (clienti i).process) c)
    (wellFormed : ∀ id d, s.get .todo id = some d → ∃ p, TaskDi p d)
    {nato : String → String → Prop} (includes : ∀ id p, NatoIn s c.trace id p → nato id p) :
    AlloroPosto nato c.store := by
  have initial : AlloroPosto nato s := by
    intro id d stored
    obtain ⟨p, task⟩ := wellFormed id d stored
    exact ⟨p, includes id p (.inl ⟨d, stored, task⟩), task⟩
  have admits : ∀ x ∈ c.trace, ammesso nato x.2 := by
    rintro ⟨i, x⟩ member data id p rfl task
    exact includes id p (.inr ⟨data, ⟨i, member⟩, task⟩)
  exact (reach.respects (network_fulfils nato) admits initial fun i => respects_cliente _).1

end

/-- Any two documents that are stored for one task, at any two moments of a run,
are of the same project and have a title, also when the task has been deleted and
stored again between them. -/
theorem task_keeps_project {ι : Type} [DecidableEq ι] {clienti : ι → Cliente} {s : Store}
    (wellFormed : ∀ id d, s.get .todo id = some d → ∃ p, TaskDi p d)
    {c₁ c₂ : Config ι firestore Thrown Store Unit}
    (first : Reaches network Config.anyStep (.start s fun i => (clienti i).process) c₁)
    (later : Reaches network Config.anyStep c₁ c₂) {id : String} {d₁ d₂ : Document}
    (stored₁ : c₁.store.get .todo id = some d₁) (stored₂ : c₂.store.get .todo id = some d₂) :
    ∃ p, TaskDi p d₁ ∧ TaskDi p d₂ := by
  have known : ∀ id p, NatoIn s c₁.trace id p → NatoIn s c₂.trace id p := by
    intro id p born
    exact born.imp_right fun ⟨data, ⟨i, member⟩, task⟩ =>
      ⟨data, ⟨i, later.trace_subset member⟩, task⟩
  obtain ⟨p, born, task₁⟩ := alloroPosto_of_reaches first wellFormed known id d₁ stored₁
  obtain ⟨p', born', task₂⟩ :=
    alloroPosto_of_reaches (first.trans later) wellFormed (fun _ _ born => born) id d₂ stored₂
  cases born.unique (first.trans later) born'
  exact ⟨p, task₁, task₂⟩

/-! ## An edit that comes after the deletion -/

inductive Chi where
  | aggiunge
  | modifica
  | elimina
  deriving DecidableEq

def aPiuMani : Chi → Cliente
  | .aggiunge => .chiama (.addTodo 0 ⟨0, false⟩ ⟨0, false⟩ "Capitolo 1" "" ⟨microsPerDay, false⟩
      false "anna" "p" .media) id
  | .modifica => .visita "anna" (allaPrima "p" ++ [.compie 0 (.modifica ⟨0, ⟨0, false⟩, ⟨0, false⟩,
      ⟨0, false⟩, "Capitolo primo", "", ⟨microsPerDay, false⟩, .alta⟩)])
  | .elimina => .chiama (.deleteTodo "t") id

/-- The task is listed and deleted, and the edit stores it again. -/
theorem task_keeps_project_capitolo : ∃ c₁ c₂ : Config Chi firestore Thrown Store Unit, ∃ d₁ d₂,
    (Config.start storeConProgetto fun i => (aPiuMani i).process).run network
      [(.aggiunge, .inr "t")] = some c₁ ∧
    c₁.run network [(.modifica, .inr ""), (.modifica, .inr ""), (.modifica, .inr ""),
      (.modifica, .inr ""), (.elimina, .inr ""), (.modifica, .inr "")] = some c₂ ∧
    c₁.store.get .todo "t" = some d₁ ∧ c₂.store.get .todo "t" = some d₂ ∧
    ∃ p, TaskDi p d₁ ∧ TaskDi p d₂ := by
  obtain ⟨c₁, first⟩ : ∃ c₁, (Config.start storeConProgetto fun i => (aPiuMani i).process).run
      network [(.aggiunge, .inr "t")] = some c₁ := ⟨_, rfl⟩
  obtain ⟨c₂, second⟩ : ∃ c₂, c₁.run network [(.modifica, .inr ""), (.modifica, .inr ""),
      (.modifica, .inr ""), (.modifica, .inr ""), (.elimina, .inr ""), (.modifica, .inr "")] =
      some c₂ := by
    cases first
    exact ⟨_, rfl⟩
  obtain ⟨d₁, stored₁⟩ : ∃ d₁, c₁.store.get .todo "t" = some d₁ := by
    cases first
    exact ⟨_, rfl⟩
  obtain ⟨d₂, stored₂⟩ : ∃ d₂, c₂.store.get .todo "t" = some d₂ := by
    cases first
    cases second
    exact ⟨_, rfl⟩
  refine ⟨c₁, c₂, d₁, d₂, first, second, stored₁, stored₂,
    task_keeps_project ?_ (.of_run _ first (Config.along_anyStep _ _))
      (.of_run _ second (Config.along_anyStep _ _)) stored₁ stored₂⟩
  intro id d found
  cases found

end TeamSync.Screens.Visits
