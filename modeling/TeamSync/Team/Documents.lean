import TeamSync.Library.Contract
import TeamSync.Team.Deletion

/-! Properties that every stored document has, at the steps of the calls of all clients.

A rule is a property that the writes of the application keep. Clients that rely
on it for what they read keep it in what they write, with the documents that
they have read and not yet written back.
-/

set_option autoImplicit false

namespace TeamSync.Team

open Effects Projects Tasks

structure Regola where
  vale : CollectionName → String → Document → Prop
  nuovo : Document → Prop
  entra : ∀ {id d} user, vale .progetti id d → vale .progetti id (d.entra user)
  esce : ∀ {id d} user, vale .progetti id d → vale .progetti id (d.esce user)
  modifica : ∀ {id d progetto}, vale .progetti id d → Progetto.Decodes id d progetto →
    ∀ nome descrizione dataScadenza priorita completato voto dataConsegna,
      vale .progetti id (RepositoryProgetto.aggiornaProgettoMap
        (modificato progetto nome descrizione dataScadenza priorita completato voto dataConsegna))
  attivita : ∀ id (a : LeMieAttivita), vale .todo id a.toMap
  completa : ∀ {id d} completato, vale .todo id d →
    vale .todo id (d.writes [("completato", .value (.bool completato))])
  assegna : ∀ {id d} utenti, vale .todo id d →
    vale .todo id (d.writes [("utenti", .value (.strings utenti))])

namespace Regola

def contratto (regola : Regola) : Contract firestore Thrown where
  guarantee
    | .add .progetti data => regola.nuovo data
    | .add c data => ∀ id, regola.vale c id data
    | .set c id data => regola.vale c id data
    | .update c id data => ∀ d, regola.vale c id d → regola.vale c id (d.writes data)
    | _ => True
  rely
    | .get c id, reply => ∀ d, reply = .ok (some d) → regola.vale c id d
    | .query c _, reply => ∀ docs, reply = .ok docs → ∀ id d, (id, d) ∈ docs → regola.vale c id d
    | _, _ => True

def invariante (regola : Regola) (s : Store) : Prop :=
  ∀ c id d, s.get c id = some d → regola.vale c id d

def ammesso (regola : Regola) (x : Exchange firestore Thrown) : Prop :=
  ∀ data id, x = ⟨.add .progetti data, .ok id⟩ → regola.nuovo data → regola.vale .progetti id data

variable {regola : Regola} {s : Store} {c : CollectionName} {id : String} {d : Document}

theorem invariante_put (holds : regola.invariante s) (good : regola.vale c id d) :
    regola.invariante (s.put c id d) := by
  intro other key d' found
  rw [Store.get_put] at found
  split at found
  · next same =>
    obtain ⟨rfl, rfl⟩ := same
    cases found
    exact good
  · exact holds other key d' found

theorem invariante_erase (holds : regola.invariante s) : regola.invariante (s.erase c id) := by
  intro other key d' found
  rw [Store.get_erase] at found
  split at found
  · cases found
  · exact holds other key d' found

theorem network_fulfils (regola : Regola) :
    network.Fulfils regola.contratto regola.invariante regola.ammesso := by
  intro choice op s reply final holds guaranteed admitted answered
  cases op with
  | get c id =>
    obtain ⟨rfl, stored⟩ := network_get answered
    exact ⟨fun d same => holds c id d (stored _ same).symm, holds⟩
  | query c filters =>
    cases network_of_not_isWrite rfl answered
    refine ⟨fun docs same id d listed => ?_, holds⟩
    subst same
    exact holds c id d (network_query answered listed)
  | add c data =>
    refine ⟨trivial, ?_⟩
    rcases network_add answered with ⟨-, -, rfl⟩ | ⟨newId, -, rfl, rfl⟩
    · exact holds
    · apply invariante_put holds
      cases c with
      | progetti => exact admitted data newId rfl guaranteed
      | todo | utenti => exact guaranteed newId
  | set c id data =>
    refine ⟨trivial, ?_⟩
    rcases network_set answered with ⟨-, -, rfl⟩ | ⟨-, rfl⟩
    · exact holds
    · exact invariante_put holds guaranteed
  | update c id data =>
    refine ⟨trivial, ?_⟩
    rcases network_update answered with ⟨-, -, rfl⟩ | ⟨d, found, -, rfl⟩
    · exact holds
    · exact invariante_put holds (guaranteed d (holds c id d found))
  | delete c id =>
    refine ⟨trivial, ?_⟩
    rcases network_delete answered with ⟨-, -, rfl⟩ | ⟨-, rfl⟩
    · exact holds
    · exact invariante_erase holds
  | callback eliminato | onSuccess key =>
    cases network_of_not_isWrite rfl answered
    exact ⟨trivial, holds⟩

end Regola

abbrev Rispetta {A : Type} (regola : Regola) (p : App A) (returns : A → Prop) : Prop :=
  p.Respects regola.contratto returns

section
variable {regola : Regola} {A : Type}

theorem rispetta_of_quiet {p : App A} (quiet : Quiet p) : Rispetta regola p fun _ => True := by
  refine .of_onlyCalls ?_
  induction p with
  | done a => trivial
  | raise e => trivial
  | call op next ih =>
    refine ⟨?_, fun reply => ih reply (quiet.2 reply)⟩
    have read := quiet.1
    cases op <;> trivial

theorem rispetta_get (c : CollectionName) (id : String) :
    Rispetta regola (get c id) fun found => ∀ d, found = some d → regola.vale c id d :=
  .perform trivial fun _ relied d same => relied d (congrArg Except.ok same)

theorem rispetta_write {op : Op} (guaranteed : regola.contratto.guarantee op) :
    Rispetta regola (Process.perform (I := firestore) op) fun _ => True :=
  .perform guaranteed fun _ _ => trivial

/-! ## Projects -/

theorem rispetta_aggiungiPartecipante (progettoId userId : Option String) :
    Rispetta regola (RepositoryProgetto.aggiungiPartecipante progettoId userId)
      fun _ => True := by
  cases progettoId <;> cases userId
  all_goals first | trivial | exact rispetta_write fun _ good => regola.entra _ good

theorem rispetta_unisciti (userId codice : String) :
    Rispetta regola (ProgettoViewModel.aggiungiPartecipanteConCodice userId codice)
      fun _ => True := by
  have searched : Quiet (RepositoryProgetto.getProgettoIdByCodice codice) :=
    .rescue (.bind (.perform rfl) fun _ => trivial) fun _ => trivial
  have listed : Quiet (RepositoryProgetto.getProgettiUtente userId) := quiet_lista _ _ _
  refine .rescue (.bind (rispetta_of_quiet searched) fun progettoId _ =>
    .bind (rispetta_of_quiet listed) fun progettiUtente _ => ?_) fun _ => trivial
  cases progettoId with
  | none => trivial
  | some progettoId =>
    dsimp only
    split
    · trivial
    · exact .bind (rispetta_aggiungiPartecipante _ _) fun _ _ => trivial

theorem rispetta_abbandonaProgetto (userId : Option String) (progettoId : String) :
    Rispetta regola (ProgettoViewModel.abbandonaProgetto userId progettoId) fun _ => True := by
  cases userId with
  | none => trivial
  | some userId =>
    have counted : Quiet (RepositoryProgetto.getPartecipantiDelProgetto progettoId) := by
      refine .bind (.perform rfl) fun found => ?_
      cases found with
      | none => trivial
      | some data => exact .ofExcept _
    have removed : Rispetta regola (update .progetti progettoId
        [("partecipanti", .arrayRemove [.string userId])]) fun _ => True :=
      rispetta_write fun _ good => regola.esce userId good
    have deleted : Rispetta regola (RepositoryProgetto.eliminaProgetto progettoId) fun _ => True :=
      .rescue (rispetta_write trivial) fun _ => trivial
    refine .rescue (.bind (rispetta_get _ _) fun found _ => ?_) fun _ => trivial
    dsimp only
    split
    · trivial
    · refine .bind removed fun _ _ => .bind (rispetta_of_quiet counted) fun _ _ => ?_
      split
      · exact .bind deleted fun _ _ => rispetta_write trivial
      · exact rispetta_write trivial

theorem rispetta_getProgettoById (progettoId : String) :
    Rispetta regola (RepositoryProgetto.getProgettoById progettoId) fun found =>
      ∀ progetto, found = some progetto → ∃ d, regola.vale .progetti progettoId d ∧
        Progetto.Decodes progettoId d progetto := by
  refine .rescue (.bind (rispetta_get _ _) fun found good => ?_) fun _ => ?_
  · cases found with
    | none =>
      intro progetto same
      cases same
    | some d =>
      refine .ofExcept fun read decoded progetto same => ?_
      rw [same] at decoded
      cases result : Progetto.fromFirestore progettoId d with
      | error e =>
        rw [result] at decoded
        cases decoded
      | ok p =>
        rw [result] at decoded
        cases decoded
        exact ⟨d, good d rfl, Progetto.fromFirestore_eq_ok.mp result⟩
  · intro progetto same
    cases same

theorem partecipanti_modificato {id : String} {d : Document} {progetto : Progetto}
    (decodes : Progetto.Decodes id d progetto) (nome descrizione : String)
    (dataScadenza : DateTime) (priorita : Priorita) (completato : Bool) (voto : String)
    (dataConsegna : DateTime) :
    (RepositoryProgetto.aggiornaProgettoMap (modificato progetto nome descrizione dataScadenza
      priorita completato voto dataConsegna)).partecipanti = d.partecipanti :=
  (Document.partecipanti_of_asStrings decodes.partecipanti).symm

theorem quiet_caricaProgettiUtente (vm : ProgettoViewModel) (userId : String) :
    Quiet (vm.caricaProgettiUtente userId) :=
  .bind (quiet_lista _ _ _) fun progetti =>
    .bind (reads_contaAttivita progetti).quiet fun _ => trivial

theorem rispetta_aggiornaProgetto (vm : ProgettoViewModel) (progettoId nome descrizione : String)
    (dataScadenza : DateTime) (priorita : Priorita) (completato : Bool) (voto : String)
    (dataConsegna : DateTime) :
    Rispetta regola (vm.aggiornaProgetto progettoId nome descrizione dataScadenza priorita
      completato voto dataConsegna) fun _ => True := by
  refine .bind (rispetta_getProgettoById progettoId) fun found read => ?_
  cases found with
  | none => trivial
  | some progetto =>
    obtain ⟨d, good, decodes⟩ := read progetto rfl
    have target : (modificato progetto nome descrizione dataScadenza priorita completato voto
        dataConsegna).id = some progettoId := decodes.id
    have written : Rispetta regola (RepositoryProgetto.aggiornaProgetto (modificato progetto nome
        descrizione dataScadenza priorita completato voto dataConsegna)) fun _ => True := by
      rw [RepositoryProgetto.aggiornaProgetto, target]
      exact rispetta_write (regola.modifica good decodes ..)
    refine .bind written fun _ _ => ?_
    split
    · exact rispetta_of_quiet (quiet_caricaProgettiUtente vm _)
    · trivial

theorem rispetta_addProgetto (vm : ProgettoViewModel) (now : DateTime)
    (progettoId uuid nome descrizione : String) (dataScadenza : DateTime) (priorita : Priorita)
    (partecipanti : List String)
    (new : regola.nuovo (RepositoryProgetto.creaProgettoMap (ProgettoViewModel.nuovoProgetto now
      progettoId uuid nome descrizione dataScadenza priorita partecipanti))) :
    Rispetta regola (vm.addProgetto now progettoId uuid nome descrizione dataScadenza priorita
      partecipanti) fun _ => True := by
  have created : Rispetta regola (RepositoryProgetto.creaProgetto (ProgettoViewModel.nuovoProgetto
      now progettoId uuid nome descrizione dataScadenza priorita partecipanti)) fun _ => True :=
    .rescue (rispetta_write new) fun _ => trivial
  exact .rescue (.bind (.map created fun _ _ => trivial) fun _ (_ : True) =>
    .bind (rispetta_write trivial) fun _ _ => trivial) fun _ => trivial

/-! ## Tasks -/

theorem rispetta_addTodo (zone : Zone) (oggi now : DateTime) (titolo descrizione : String)
    (dataScadenza : DateTime) (completato : Bool) (proprietario progetto : String)
    (priorita : Priorita) :
    Rispetta regola (LeMieAttivitaViewModel.addTodo zone oggi now titolo descrizione dataScadenza
      completato proprietario progetto priorita) fun _ => True := by
  have added : Rispetta regola (TodoRepository.addTodo now titolo descrizione dataScadenza priorita
      completato proprietario progetto) fun _ => True :=
    .rescue (.map (rispetta_write fun id => regola.attivita id _) fun _ _ => trivial)
      fun _ => trivial
  unfold LeMieAttivitaViewModel.addTodo
  split
  · trivial
  split
  · trivial
  exact .rescue (.bind added fun _ _ => trivial) fun _ => trivial

theorem rispetta_repository_updateTodo (now : DateTime) (id titolo descrizione : String)
    (dataScadenza dataCreazione : DateTime) (priorita : Priorita) (progetto : String)
    (utenti : List String) (completato : Bool) :
    Rispetta regola (TodoRepository.updateTodo now id titolo descrizione dataScadenza dataCreazione
      priorita progetto utenti completato) fun _ => True :=
  .rescue (rispetta_write (regola.attivita id _)) fun _ => trivial

theorem rispetta_updateTodo (zone : Zone) (oggi now : DateTime) (id titolo descrizione : String)
    (dataScadenza dataCreazione : DateTime) (progetto : String) (utenti : List String)
    (completato : Bool) (priorita : Priorita) :
    Rispetta regola (LeMieAttivitaViewModel.updateTodo zone oggi now id titolo descrizione
      dataScadenza dataCreazione progetto utenti completato priorita) fun _ => True := by
  unfold LeMieAttivitaViewModel.updateTodo
  split
  · trivial
  split
  · trivial
  exact .rescue (.bind (rispetta_repository_updateTodo ..) fun _ _ => trivial) fun _ => trivial

theorem rispetta_updateDataScadenzaTodo (now : DateTime) (attivita : LeMieAttivita)
    (dataScadenzaProgetto : DateTime) :
    Rispetta regola (LeMieAttivitaViewModel.updateDataScadenzaTodo now attivita
      dataScadenzaProgetto) fun _ => True := by
  unfold LeMieAttivitaViewModel.updateDataScadenzaTodo
  refine .rescue ?_ fun _ => trivial
  split
  · exact .bind (rispetta_repository_updateTodo ..) fun _ _ => trivial
  · trivial

theorem rispetta_completeTodo (id : String) (completato : Bool) :
    Rispetta regola (LeMieAttivitaViewModel.completeTodo id completato) fun _ => True :=
  .rescue (.bind (.rescue (rispetta_write fun _ good => regola.completa _ good) fun _ => trivial)
    fun _ _ => trivial) fun _ => trivial

theorem rispetta_repository_deleteTodo (id : String) :
    Rispetta regola (TodoRepository.deleteTodo id) fun _ => True :=
  .rescue (rispetta_write trivial) fun _ => trivial

theorem rispetta_deleteTodo (id : String) :
    Rispetta regola (LeMieAttivitaViewModel.deleteTodo id) fun _ => True :=
  .rescue (.bind (rispetta_repository_deleteTodo id) fun _ _ => trivial) fun _ => trivial

theorem rispetta_delega (id : String) (call : Delega) :
    Rispetta regola (call.process id) fun _ => True := by
  have written : ∀ utenti, Rispetta regola
      (update .todo id [("utenti", .value (.strings utenti))]) fun _ => True :=
    fun _ => rispetta_write fun _ good => regola.assegna _ good
  cases call with
  | aggiungi user =>
    exact .rescue (.bind (rispetta_get _ _) fun _ _ => .bind (.ofExcept fun _ _ => trivial)
      fun a (_ : True) => written _) fun _ => trivial
  | rimuovi user =>
    have checked : ∀ utenti : List String, Rispetta regola
        (if utenti.isEmpty then TodoRepository.deleteTodo id else pure ()) fun _ => True := by
      intro utenti
      split
      · exact rispetta_repository_deleteTodo id
      · trivial
    refine .rescue (.bind (rispetta_get _ _) fun _ _ => .bind (.ofExcept fun _ _ => trivial)
      fun a (_ : True) => ?_) fun _ => trivial
    dsimp only
    split
    · exact .bind (written _) fun _ _ => checked _
    · trivial

end

/-! ## All calls -/

def TeamCall.crea : TeamCall → Option Document
  | .addProgetto _ now progettoId uuid nome descrizione dataScadenza priorita partecipanti =>
    some (RepositoryProgetto.creaProgettoMap (ProgettoViewModel.nuovoProgetto now progettoId uuid
      nome descrizione dataScadenza priorita partecipanti))
  | _ => none

theorem rispetta_process {regola : Regola} (call : TeamCall)
    (new : ∀ data, call.crea = some data → regola.nuovo data) :
    Rispetta regola call.process fun _ => True := by
  match call with
  | .suProgetto (.membro (.unisciti userId codice)) =>
    exact .map (.map (rispetta_unisciti userId codice) fun _ => id) fun _ => id
  | .suProgetto (.membro (.abbandona userId progettoId)) =>
    exact .map (.map (rispetta_abbandonaProgetto userId progettoId) fun _ => id) fun _ => id
  | .suProgetto (.aggiorna ..) =>
    exact .map (.map (rispetta_aggiornaProgetto ..) fun _ => id) fun _ => id
  | .addProgetto .. => exact .map (rispetta_addProgetto _ _ _ _ _ _ _ _ _ (new _ rfl)) fun _ => id
  | .getAttivitaByProgettoId progettoId => exact rispetta_of_quiet (quiet_getAttivita progettoId)
  | .addTodo .. => exact .map (rispetta_addTodo ..) fun _ => id
  | .updateTodo .. => exact .map (rispetta_updateTodo ..) fun _ => id
  | .updateDataScadenzaTodo .. => exact .map (rispetta_updateDataScadenzaTodo ..) fun _ => id
  | .completeTodo .. => exact .map (rispetta_completeTodo ..) fun _ => id
  | .delega id call => exact rispetta_delega id call
  | .deleteTodo _ => exact .map (rispetta_deleteTodo _) fun _ => id

/-- Every stored document keeps the rule, in every state of every interleaving. -/
theorem stored_documents_vale {ι : Type} [DecidableEq ι] {regola : Regola} {store : Store}
    {calls : ι → TeamCall} {guard : Config ι firestore Thrown Store Unit → ι → Prop}
    {c : Config ι firestore Thrown Store Unit} (reach : Reaches network guard (start store calls) c)
    (initial : regola.invariante store)
    (new : ∀ i data, (calls i).crea = some data → regola.nuovo data)
    (admits : ∀ x ∈ c.trace, regola.ammesso x.2) : regola.invariante c.store :=
  (reach.respects regola.network_fulfils admits initial fun i =>
    rispetta_process (calls i) (new i)).1

end TeamSync.Team
