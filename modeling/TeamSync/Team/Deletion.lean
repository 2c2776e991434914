import TeamSync.Tasks.ConcurrentDelegation
import TeamSync.Team.Calls

/-! Deleted documents, among the calls of all clients. -/

set_option autoImplicit false

namespace TeamSync.Team

open Effects Projects Tasks

/-- A document with this identifier has been stored, and is not stored now. -/
def Cancellato (c : CollectionName) (id : String) (s : Store) : Prop :=
  s.Used c id ∧ s.get c id = none

abbrev SenzaSet {A : Type} (p : App A) : Prop :=
  p.OnlyCalls fun op : Op => ∀ c id data, op ≠ .set c id data

theorem senzaSet_of_quiet {A : Type} {p : App A} (quiet : Quiet p) : SenzaSet p := by
  induction p with
  | done a => trivial
  | raise e => trivial
  | call op next ih =>
    refine ⟨?_, fun reply => ih reply (quiet.2 reply)⟩
    intro c id data same
    have write := quiet.1
    rw [same] at write
    cases write

section
variable {s final : Store} {c : CollectionName} {id : String}

theorem Cancellato.put {other : CollectionName} {key : String} {d : Document}
    (gone : Cancellato c id s)
    (differ : ¬ (c = other ∧ id = key)) : Cancellato c id (s.put other key d) := by
  obtain ⟨used, missing⟩ := gone
  exact ⟨used.put, by rw [Store.get_put, if_neg differ, missing]⟩

theorem Cancellato.erase {other : CollectionName} {key : String} (gone : Cancellato c id s) :
    Cancellato c id (s.erase other key) := by
  obtain ⟨used, missing⟩ := gone
  exact ⟨used.erase, by rw [Store.get_erase, missing]; split <;> rfl⟩

theorem Cancellato.exec {op : Op} {reply : Reply firestore Thrown op} {choice : network.Choice}
    (gone : Cancellato c id s) (answered : network.exec choice op s = some (reply, final))
    (unset : ∀ data, op ≠ .set c id data) : Cancellato c id final := by
  cases op with
  | get other key | query other filters | callback eliminato | onSuccess key =>
    rw [network_of_not_isWrite rfl answered]
    exact gone
  | add other data =>
    rcases network_add answered with ⟨-, -, rfl⟩ | ⟨newId, fresh, -, rfl⟩
    · exact gone
    · apply gone.put
      rintro ⟨rfl, rfl⟩
      -- a new identifier is one that was never used
      exact fresh gone.1
  | set other key data =>
    rcases network_set answered with ⟨-, -, rfl⟩ | ⟨-, rfl⟩
    · exact gone
    · apply gone.put
      rintro ⟨rfl, rfl⟩
      -- the only write that creates under a given identifier
      exact unset data rfl
  | update other key data =>
    rcases network_update answered with ⟨-, -, rfl⟩ | ⟨d, found, -, rfl⟩
    · exact gone
    · apply gone.put
      rintro ⟨rfl, rfl⟩
      -- an update of a missing document fails
      cases gone.2.symm.trans found
  | delete other key =>
    rcases network_delete answered with ⟨-, -, rfl⟩ | ⟨-, rfl⟩
    · exact gone
    · exact gone.erase

end

/-! ## The calls without `set` -/

theorem senzaSet_delega (id : String) (call : Delega) : SenzaSet (call.process id) := by
  have failed : ∀ e, SenzaSet (call.fallita e) := fun e => .of_ended (ended_fallita call e)
  have written : ∀ utenti, SenzaSet (scrivi id call utenti) := by
    intro utenti
    refine ⟨by rintro _ _ _ ⟨⟩, fun reply => ?_⟩
    cases reply with
    | error e => exact failed e
    | ok _ =>
      cases call with
      | aggiungi user => trivial
      | rimuovi user =>
        simp only [concludi]
        split
        · exact ⟨by rintro _ _ _ ⟨⟩, fun reply => by cases reply <;> trivial⟩
        · trivial
  have valued : ∀ read, SenzaSet (Tasks.valuta id call read) := by
    intro read
    cases read with
    | error e => exact failed e
    | ok a =>
      cases call with
      | aggiungi user => exact written _
      | rimuovi user =>
        simp only [Tasks.valuta]
        split
        · exact written _
        · exact failed _
  rw [process_eq_carica]
  refine ⟨by rintro _ _ _ ⟨⟩, fun reply => ?_⟩
  cases reply with
  | error e => exact failed e
  | ok doc => exact valued _

theorem senzaSet_unisciti (userId codice : String) :
    SenzaSet (MembershipCall.unisciti userId codice).process := by
  have valued : ∀ found progettiUtente, SenzaSet (Projects.valuta userId found progettiUtente) := by
    intro found progettiUtente
    unfold Projects.valuta
    split
    · split
      · trivial
      · exact ⟨by rintro _ _ _ ⟨⟩, fun reply => by cases reply <;> trivial⟩
    · trivial
  have listed : ∀ found, SenzaSet (elenca userId found) := by
    intro found
    refine ⟨by rintro _ _ _ ⟨⟩, fun reply => ?_⟩
    cases reply <;> exact valued _ _
  rw [unisciti_process]
  refine ⟨by rintro _ _ _ ⟨⟩, fun reply => ?_⟩
  cases reply <;> exact listed _

theorem senzaSet_abbandona (userId : Option String) (progettoId : String) :
    SenzaSet (MembershipCall.abbandona userId progettoId).process := by
  have decided : ∀ read, SenzaSet (decidi progettoId read) := by
    intro read
    cases read with
    | error e => trivial
    | ok xs =>
      simp only [decidi]
      split
      · refine ⟨by rintro _ _ _ ⟨⟩, fun reply => ?_⟩
        cases reply with
        | error e => trivial
        | ok _ => exact senzaSet_of_quiet (quiet_annuncia true)
      · exact senzaSet_of_quiet (quiet_annuncia false)
  have reread : SenzaSet (leggi progettoId) := by
    refine ⟨by rintro _ _ _ ⟨⟩, fun reply => ?_⟩
    rcases reply with e | _ | d
    · trivial
    · exact decided _
    · exact decided _
  cases userId with
  | none => trivial
  | some user =>
    rw [abbandona_process]
    refine ⟨by rintro _ _ _ ⟨⟩, fun reply => ?_⟩
    rcases reply with e | _ | d
    · trivial
    · trivial
    refine ⟨by rintro _ _ _ ⟨⟩, fun reply => ?_⟩
    cases reply with
    | error e => trivial
    | ok _ => exact reread

theorem senzaSet_single {A : Type} {op : Op} {next : Reply firestore Thrown op → App A}
    (unset : ∀ c id data, op ≠ .set c id data) (quiet : ∀ reply, Quiet (next reply)) :
    SenzaSet ((fun _ => ()) <$> Process.call op next) :=
  .bind ⟨unset, fun reply => senzaSet_of_quiet (quiet reply)⟩ fun _ => trivial

theorem senzaSet_process {call : TeamCall} (keeps : ¬ call.Riscrive) : SenzaSet call.process := by
  match call with
  | .suProgetto (.membro (.unisciti userId codice)) =>
    exact .bind (senzaSet_unisciti userId codice) fun _ => trivial
  | .suProgetto (.membro (.abbandona userId progettoId)) =>
    exact .bind (senzaSet_abbandona userId progettoId) fun _ => trivial
  | .suProgetto (.aggiorna ..) => exact absurd trivial keeps
  | .addProgetto .. =>
    exact senzaSet_single (by rintro _ _ _ ⟨⟩) fun reply => by
      cases reply with
      | error e => trivial
      | ok _ => exact ⟨rfl, fun reply => by cases reply <;> trivial⟩
  | .getAttivitaByProgettoId progettoId => exact senzaSet_of_quiet (quiet_getAttivita progettoId)
  | .addTodo .. =>
    simp only [TeamCall.process, LeMieAttivitaViewModel.addTodo]
    split
    · trivial
    split
    · trivial
    · exact senzaSet_single (by rintro _ _ _ ⟨⟩) fun reply => by cases reply <;> trivial
  | .updateTodo .. => exact absurd trivial keeps
  | .updateDataScadenzaTodo .. => exact absurd trivial keeps
  | .completeTodo id completato =>
    exact senzaSet_single (by rintro _ _ _ ⟨⟩) fun reply => by cases reply <;> trivial
  | .delega id call => exact senzaSet_delega id call
  | .deleteTodo id =>
    exact senzaSet_single (by rintro _ _ _ ⟨⟩) fun reply => by cases reply <;> trivial

/-! ## Runs -/

section
variable {ι : Type} [DecidableEq ι] {s : Store} {calls : ι → TeamCall} {c : CollectionName}
    {id : String}
  {mid final : Config ι firestore Thrown Store Unit}

def start (s : Store) (calls : ι → TeamCall) : Config ι firestore Thrown Store Unit :=
  .start s fun i => (calls i).process

/-- An edit, an update or a change of deadline writes over an existing document. -/
def RiscriveEsistente (calls : ι → TeamCall) (c : Config ι firestore Thrown Store Unit)
    (i : ι) : Prop :=
  (calls i).Riscrive → ∀ collection id data, (c.pool i).nextOp = some (.set collection id data) →
    c.store.get collection id ≠ none

/-- In every run in which the calls that write with `set` do so over existing
documents, a document that has been deleted never exists again. -/
theorem deleted_stays_deleted (before : Reaches network Config.anyStep (start s calls) mid)
    (gone : Cancellato c id mid.store)
    (reach : Reaches network (RiscriveEsistente calls) mid final) :
    final.store.get c id = none := by
  have still : Cancellato c id final.store := by
    refine reach.invariant (fun config => Cancellato c id config.store) ?_ gone
    intro mid' final i choice reached gone guarded stepped
    obtain ⟨op, next, reply, head, answered, -, -⟩ := Config.step_cases stepped
    apply gone.exec answered
    rintro data rfl
    by_cases rewrites : (calls i).Riscrive
    · exact guarded rewrites c id data (by rw [head]; rfl) gone.2
    · -- the call is at a point of a program without `set`
      have everything : Reaches network Config.anyStep (start s calls) mid' :=
        before.trans (reached.weaken fun _ _ _ => trivial)
      have only : SenzaSet (mid'.pool i) := everything.onlyCalls (senzaSet_process rewrites)
      rw [head] at only
      exact only.1 c id data rfl
  exact still.2

end

/-! ## An update that comes after the deletion -/

inductive Cliente where
  | elenco
  | cancellatore
  | delegante
  | revisore
  deriving DecidableEq

def intornoAlTask : Cliente → TeamCall
  | .elenco => .getAttivitaByProgettoId "p"
  | .cancellatore => .deleteTodo "t"
  | .delegante => .delega "t" (.aggiungi "bruno")
  | .revisore =>
    .updateTodo 0 ⟨0, false⟩ ⟨0, false⟩ "t" "Capitolo 2" "Prima stesura" ⟨microsPerDay, false⟩
      ⟨0, false⟩ "p" ["anna"] false .media

theorem cancellato_t : Cancellato .todo "t" (storeDiAnna.erase .todo "t") :=
  ⟨Store.Used.erase (Store.used_of_get (s := storeDiAnna) rfl), rfl⟩

theorem deleted_stays_deleted_delegante : ∃ mid final : Config Cliente firestore Thrown Store Unit,
    (start storeDiAnna intornoAlTask).run network [(.cancellatore, .inr "")] = some mid ∧
    mid.run network [(.delegante, .inr "")] = some final ∧ (final.pool .delegante).Ended ∧
    final.store.get .todo "t" = none := by
  obtain ⟨mid, first⟩ : ∃ mid, (start storeDiAnna intornoAlTask).run network
      [(.cancellatore, .inr "")] = some mid :=
    ⟨_, rfl⟩
  obtain ⟨final, second⟩ : ∃ final, mid.run network [(.delegante, .inr "")] = some final := by
    cases first
    exact ⟨_, rfl⟩
  have gone : Cancellato .todo "t" mid.store := by
    cases first
    exact cancellato_t
  have ended : (final.pool .delegante).Ended := by
    cases first
    cases second
    trivial
  have reach : Reaches network (RiscriveEsistente intornoAlTask) mid final := by
    refine .of_run _ second ⟨?_, fun _ _ => trivial⟩
    intro rewrites
    exact False.elim rewrites
  exact ⟨mid, final, first, second, ended,
    deleted_stays_deleted (.of_run _ first (Config.along_anyStep _ _)) gone reach⟩

/-- The task is deleted, and the update makes it exist again. -/
theorem update_revives : ∃ mid final : Config Cliente firestore Thrown Store Unit,
    Reaches service Config.anyStep (start storeDiAnna intornoAlTask) mid ∧
    Cancellato .todo "t" mid.store ∧
    Reaches service Config.anyStep mid final ∧ final.AllEnded ∧
    final.store.get .todo "t" ≠ none := by
  refine ⟨_, _, .of_run [(.elenco, ""), (.cancellatore, "")] rfl (Config.along_anyStep _ _),
    cancellato_t, .of_run [(.delegante, ""), (.revisore, "")] rfl
      (Config.along_anyStep _ _), ?_, ?_⟩
  · rintro (_ | _ | _ | _) <;> trivial
  · exact Option.some_ne_none _

end TeamSync.Team
