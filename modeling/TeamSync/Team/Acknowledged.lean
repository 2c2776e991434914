import TeamSync.Projects.FailedLeave
import TeamSync.Team.Calls

/-! What the calls that have had a write acknowledged have done.

No read of one document and no deletion fails: a leave and a removal that have
begun go to their ends. Every other call may fail at any point.
-/

set_option autoImplicit false

namespace TeamSync

open Effects

def HaScritto (calls : List (Exchange firestore Thrown)) : Prop :=
  ∃ x ∈ calls, x.op.isWrite = true ∧ x.reply.isOk = true

/-- No read of one document and no deletion has failed. -/
def Compiuta (calls : List (Exchange firestore Thrown)) : Prop :=
  ∀ x ∈ calls, ∀ c id e, x ≠ ⟨.get c id, .error e⟩ ∧ x ≠ ⟨.delete c id, .error e⟩

section
variable {A : Type} {s final : Store} {calls : List (Exchange firestore Thrown)}
    {out : Except Thrown A}

@[simp] theorem not_haScritto_nil : ¬ HaScritto [] := by
  rintro ⟨x, member, -⟩
  cases member

theorem haScritto_cons {x : Exchange firestore Thrown} :
    HaScritto (x :: calls) ↔ x.op.isWrite = true ∧ x.reply.isOk = true ∨ HaScritto calls := by
  simp [HaScritto]

@[simp] theorem haScritto_error {op : Op} {e : Thrown} :
    HaScritto (⟨op, .error e⟩ :: calls) ↔ HaScritto calls := by
  simp [haScritto_cons, Except.isOk, Except.toBool]

@[simp] theorem haScritto_get {c : CollectionName} {id : String}
    {reply : Reply firestore Thrown (.get c id)} :
    HaScritto (⟨.get c id, reply⟩ :: calls) ↔ HaScritto calls := by
  simp [haScritto_cons, Op.isWrite]

@[simp] theorem haScritto_query {c : CollectionName} {filters : List Filter}
    {reply : Reply firestore Thrown (.query c filters)} :
    HaScritto (⟨.query c filters, reply⟩ :: calls) ↔ HaScritto calls := by
  simp [haScritto_cons, Op.isWrite]

@[simp] theorem haScritto_callback {eliminato : Bool}
    {reply : Reply firestore Thrown (.callback eliminato)} :
    HaScritto (⟨.callback eliminato, reply⟩ :: calls) ↔ HaScritto calls := by
  simp [haScritto_cons, Op.isWrite]

theorem Compiuta.tail {x : Exchange firestore Thrown} (whole : Compiuta (x :: calls)) :
    Compiuta calls := fun y member => whole y (List.mem_cons_of_mem x member)

theorem Compiuta.not_get {c : CollectionName} {id : String} {e : Thrown} (whole : Compiuta calls) :
    ⟨.get c id, .error e⟩ ∉ calls := fun member => (whole _ member c id e).1 rfl

theorem Compiuta.not_delete {c : CollectionName} {id : String} {e : Thrown}
    (whole : Compiuta calls) : ⟨.delete c id, .error e⟩ ∉ calls :=
  fun member => (whole _ member c id e).2 rfl

theorem network_error {choice : network.Choice} {op : Op} {e : Thrown}
    (answered : network.exec choice op s = some (.error e, final)) : final = s := by
  rcases network_cases answered with ⟨-, -, same⟩ | ⟨newId, answered⟩
  · exact same
  · cases op with
    | add c data =>
      simp only [exec] at answered
      split at answered <;> cases answered
    | update c id data =>
      simp only [exec] at answered
      split at answered
      · cases answered
      · cases answered
        rfl
    | _ => cases answered

theorem runs_senza_scrivere {p : App A} (run : Runs network p s calls out final)
    (unwritten : ¬ HaScritto calls) : final = s := by
  induction run with
  | done => rfl
  | raise => rfl
  | @call op next choice reply s mid final calls out answered _ ih =>
    rw [haScritto_cons, not_or] at unwritten
    rw [ih unwritten.2]
    cases reply with
    | error e => exact network_error answered
    | ok answer =>
      have read : op.isWrite ≠ true := fun write => unwritten.1 ⟨write, rfl⟩
      exact network_of_not_isWrite (by simpa using read) answered

theorem runs_quiet_unwritten {p : App A} (quiet : Quiet p)
    (run : Runs network p s calls out final) : ¬ HaScritto calls := by
  induction run with
  | done => exact not_haScritto_nil
  | raise => exact not_haScritto_nil
  | call answered _ ih =>
    rw [haScritto_cons, not_or]
    refine ⟨fun wrote => ?_, ih (quiet.2 _)⟩
    cases quiet.1.symm.trans wrote.1

theorem unwritten_done {a : A} (run : Runs network (.done a) s calls out final) :
    ¬ HaScritto calls := by
  rw [(runs_done_iff.mp run).1]
  exact not_haScritto_nil

theorem runs_first_scritto {op : Op} {next : Reply firestore Thrown op → App A}
    (quiet : ∀ reply, Quiet (next reply)) (run : Runs network (.call op next) s calls out final)
    (wrote : HaScritto calls) :
    ∃ choice answer, network.exec choice op s = some (.ok answer, final) := by
  obtain ⟨choice, reply, rest, answered, after, rfl⟩ := runs_first quiet run
  cases reply with
  | error e => exact absurd (haScritto_error.mp wrote) (runs_quiet_unwritten (quiet _) after)
  | ok answer => exact ⟨choice, answer, answered⟩

end

/-! ## The calls -/

namespace Team

open Projects Tasks RepositoryProgetto

variable {s final : Store} {calls : List (Exchange firestore Thrown)}

theorem scritto_completeTodo {id : String} {completato : Bool} {out : Except Thrown Unit}
    (run : Runs network (TeamCall.completeTodo id completato).process s calls out final)
    (wrote : HaScritto calls) : ∃ d, s.get .todo id = some d ∧
      final = s.put .todo id (d.writes [("completato", .value (.bool completato))]) := by
  obtain ⟨choice, answer, answered⟩ :=
    runs_first_scritto (fun reply => by cases reply <;> trivial) run wrote
  rcases network_update answered with ⟨e, same, -⟩ | ⟨d, found, -, same⟩
  · cases same
  · exact ⟨d, found, same⟩

theorem scritto_deleteTodo {id : String} {out : Except Thrown Unit}
    (run : Runs network (TeamCall.deleteTodo id).process s calls out final)
    (wrote : HaScritto calls) : final = s.erase .todo id := by
  obtain ⟨choice, answer, answered⟩ :=
    runs_first_scritto (fun reply => by cases reply <;> trivial) run wrote
  rcases network_delete answered with ⟨e, same, -⟩ | ⟨-, same⟩
  · cases same
  · exact same

theorem scritto_addTodo {zone : Zone} {oggi now : DateTime} {titolo descrizione : String}
    {dataScadenza : DateTime} {completato : Bool} {proprietario progetto : String}
    {priorita : Priorita} {out : Except Thrown Unit}
    (run : Runs network (TeamCall.addTodo zone oggi now titolo descrizione dataScadenza completato
      proprietario progetto priorita).process s calls out final) (wrote : HaScritto calls) :
    titolo ≠ "" ∧ ∃ newId, newId ∉ (s .todo).used ∧ final = s.put .todo newId
      (LeMieAttivita.new now none titolo descrizione dataScadenza priorita completato progetto
        [proprietario] none none).toMap := by
  simp only [TeamCall.process, LeMieAttivitaViewModel.addTodo] at run
  split at run
  · exact absurd wrote (unwritten_done run)
  split at run
  · exact absurd wrote (unwritten_done run)
  next titled _ =>
  obtain ⟨choice, answer, answered⟩ :=
    runs_first_scritto (fun reply => by cases reply <;> trivial) run wrote
  rcases network_add answered with ⟨e, same, -⟩ | ⟨newId, fresh, -, same⟩
  · cases same
  · exact ⟨fun empty => titled (by simp [empty]), newId, fresh, same⟩

theorem scritto_updateTodo {zone : Zone} {oggi now : DateTime} {id titolo descrizione : String}
    {dataScadenza dataCreazione : DateTime} {progetto : String} {utenti : List String}
    {completato : Bool} {priorita : Priorita} {out : Except Thrown Unit}
    (run : Runs network (TeamCall.updateTodo zone oggi now id titolo descrizione dataScadenza
      dataCreazione progetto utenti completato priorita).process s calls out final)
    (wrote : HaScritto calls) : titolo ≠ "" ∧ final = s.put .todo id
      (LeMieAttivita.new now (some id) titolo descrizione dataScadenza priorita completato progetto
        utenti none (some dataCreazione)).toMap := by
  simp only [TeamCall.process, LeMieAttivitaViewModel.updateTodo] at run
  split at run
  · exact absurd wrote (unwritten_done run)
  split at run
  · exact absurd wrote (unwritten_done run)
  next titled _ =>
  obtain ⟨choice, answer, answered⟩ :=
    runs_first_scritto (fun reply => by cases reply <;> trivial) run wrote
  rcases network_set answered with ⟨e, same, -⟩ | ⟨-, same⟩
  · cases same
  · exact ⟨fun empty => titled (by simp [empty]), same⟩

theorem scritto_updateDataScadenzaTodo {now : DateTime} {attivita : LeMieAttivita} {id : String}
    {dataScadenzaProgetto : DateTime} {out : Except Thrown Unit} (named : attivita.id = some id)
    (run : Runs network (TeamCall.updateDataScadenzaTodo now attivita dataScadenzaProgetto).process
      s calls out final) (wrote : HaScritto calls) : final = s.put .todo id
      (LeMieAttivita.new now (some id) attivita.titolo attivita.descrizione dataScadenzaProgetto
        attivita.priorita attivita.completato attivita.progetto attivita.utenti none
          (some attivita.dataScadenza)).toMap := by
  simp only [TeamCall.process, LeMieAttivitaViewModel.updateDataScadenzaTodo, named] at run
  obtain ⟨choice, answer, answered⟩ :=
    runs_first_scritto (fun reply => by cases reply <;> trivial) run wrote
  rcases network_set answered with ⟨e, same, -⟩ | ⟨-, same⟩
  · cases same
  · exact same

def Delegata (id : String) (utenti : List String) (s : Store) (d : Document) (final : Store) :
    Prop :=
  utenti ≠ [] ∧ final = s.put .todo id (d.writes [("utenti", .value (.strings utenti))]) ∨
    utenti = [] ∧
      final = (s.put .todo id (d.writes [("utenti", .value (.strings utenti))])).erase .todo id

theorem unwritten_fallita {call : Delega} {e : Thrown} {out : Except Thrown Unit}
    (run : Runs network (call.fallita e) s calls out final) : ¬ HaScritto calls :=
  runs_quiet_unwritten (.of_ended (ended_fallita call e)) run

theorem scritto_concludi {id : String} {call : Delega} {utenti : List String} {d : Document}
    {out : Except Thrown Unit} (whole : Compiuta calls)
    (run : Runs network (concludi id (call.lista utenti) call)
      (s.put .todo id (d.writes [("utenti", .value (.strings (call.lista utenti)))])) calls out
        final) : Delegata id (call.lista utenti) s d final := by
  cases call with
  | aggiungi user =>
    obtain ⟨-, -, rfl⟩ := runs_done_iff.mp run
    exact .inl ⟨List.append_ne_nil_of_right_ne_nil _ (List.cons_ne_nil _ _), rfl⟩
  | rimuovi user =>
    simp only [concludi] at run
    split at run
    · next empty =>
      obtain ⟨choice, reply, mid, rest, answered, after, rfl⟩ := runs_call_iff.mp run
      rcases network_delete answered with ⟨e, rfl, -⟩ | ⟨rfl, rfl⟩
      · exact absurd List.mem_cons_self whole.not_delete
      · obtain ⟨-, -, rfl⟩ := runs_done_iff.mp after
        exact .inr ⟨List.isEmpty_iff.mp empty, rfl⟩
    · next some =>
      obtain ⟨-, -, rfl⟩ := runs_done_iff.mp run
      exact .inl ⟨fun none => some (List.isEmpty_iff.mpr none), rfl⟩

theorem scritto_scrivi {id : String} {call : Delega} {utenti : List String} {d : Document}
    {out : Except Thrown Unit} (found : s.get .todo id = some d)
    (run : Runs network (scrivi id call utenti) s calls out final) (wrote : HaScritto calls)
    (whole : Compiuta calls) : Delegata id (call.lista utenti) s d final := by
  obtain ⟨choice, reply, mid, rest, answered, after, rfl⟩ := runs_call_iff.mp run
  rcases network_update answered with ⟨e, rfl, rfl⟩ | ⟨d', found', rfl, rfl⟩
  · exact absurd (haScritto_error.mp wrote) (unwritten_fallita after)
  · cases found.symm.trans found'
    exact scritto_concludi whole.tail after

theorem scritto_delega {id : String} {call : Delega} {out : Except Thrown Unit}
    (run : Runs network (TeamCall.delega id call).process s calls out final)
    (wrote : HaScritto calls) (whole : Compiuta calls) :
    ∃ d a, s.get .todo id = some d ∧ LeMieAttivita.Decodes id d a ∧
      (∀ user, call = .rimuovi user → user ∈ a.utenti) ∧
      Delegata id (call.lista a.utenti) s d final := by
  rw [TeamCall.process, process_eq_carica] at run
  obtain ⟨choice, reply, mid, rest, answered, evaluated, rfl⟩ := runs_call_iff.mp run
  obtain ⟨rfl, stored⟩ := network_get answered
  replace wrote := haScritto_get.mp wrote
  cases reply with
  | error e => exact absurd wrote (unwritten_fallita evaluated)
  | ok doc =>
    cases stored doc rfl
    cases read : LeMieAttivita.fromFirestore id (mid.get .todo id) with
    | error e =>
      simp only [read, Tasks.valuta] at evaluated
      exact absurd wrote (unwritten_fallita evaluated)
    | ok a =>
      obtain ⟨d, found, decodes⟩ := LeMieAttivita.fromFirestore_eq_ok.mp read
      simp only [read, Tasks.valuta] at evaluated
      refine ⟨d, a, found, decodes, ?_⟩
      cases call with
      | aggiungi user => exact ⟨by rintro _ ⟨⟩, scritto_scrivi found evaluated wrote whole.tail⟩
      | rimuovi user =>
        simp only at evaluated
        split at evaluated
        · next member =>
          exact ⟨by rintro _ ⟨⟩; exact member, scritto_scrivi found evaluated wrote whole.tail⟩
        · exact absurd wrote (unwritten_fallita evaluated)

/-! ## Projects -/

theorem scritto_addProgetto {vm : ProgettoViewModel} {now : DateTime}
    {progettoId uuid nome descrizione : String} {dataScadenza : DateTime} {priorita : Priorita}
    {partecipanti : List String} {out : Except Thrown Unit}
    (run : Runs network (TeamCall.addProgetto vm now progettoId uuid nome descrizione dataScadenza
      priorita partecipanti).process s calls out final) (wrote : HaScritto calls) :
    ∃ newId, newId ∉ (s .progetti).used ∧ final = s.put .progetti newId
      (creaProgettoMap (ProgettoViewModel.nuovoProgetto now progettoId uuid nome descrizione
        dataScadenza priorita partecipanti)) := by
  obtain ⟨out, ran⟩ := run.of_map
  obtain ⟨after, -, created⟩ := runs_crea ran
  cases created with
  | nonAggiunto => exact absurd (haScritto_error.mp wrote) not_haScritto_nil
  | interrotto fresh | aggiunto fresh => exact ⟨_, fresh, rfl⟩

theorem scritto_unisciti {user codice : String} {out : Except Thrown Unit}
    (run : Runs network (TeamCall.suProgetto (.membro (.unisciti user codice))).process s calls out
      final) (wrote : HaScritto calls) :
    ∃ id d, s.get .progetti id = some d ∧ d "codice" = some (.string codice) ∧
      final = s.put .progetti id (d.entra user) := by
  obtain ⟨out, ran⟩ := run.of_map
  obtain ⟨out, ran⟩ := ran.of_map
  obtain ⟨codici, miei, rest, answer, rfl, searched, -, -, ended⟩ := runs_adesione ran
  replace wrote := haScritto_query.mp (haScritto_query.mp wrote)
  cases ended with
  | sconosciuto | giaParte => exact absurd wrote not_haScritto_nil
  | nonScritta => exact absurd (haScritto_error.mp wrote) not_haScritto_nil
  | @scritta id d found unlisted stored =>
    refine ⟨id, d, stored, ?_, rfl⟩
    cases codici with
    | error e => cases found
    | ok docs =>
      obtain ⟨⟨_, d'⟩, first, rfl⟩ := Option.map_eq_some_iff.mp found
      rw [searched docs rfl] at first
      obtain ⟨stored', holds⟩ := Store.mem_trovati.mp (List.mem_of_head? first)
      cases stored.symm.trans stored'
      simpa [Filter.holds] using holds

theorem scritto_abbandona {userId : Option String} {id : String} {out : Except Thrown Unit}
    (run : Runs network (TeamCall.suProgetto (.membro (.abbandona userId id))).process s calls out
      final) (wrote : HaScritto calls) (whole : Compiuta calls) :
    ∃ user d, userId = some user ∧ s.get .progetti id = some d ∧
      ((∀ xs, partecipantiDi (d.esce user) ≠ .ok xs) ∨
        ∃ xs, partecipantiDi (d.esce user) = .ok xs ∧
          (xs ≠ [] ∧ final = s.put .progetti id (d.esce user) ∨
            xs = [] ∧ final = (s.put .progetti id (d.esce user)).erase .progetti id)) := by
  obtain ⟨out, ran⟩ := run.of_map
  obtain ⟨out, ran⟩ := ran.of_map
  cases userId with
  | none => exact absurd wrote (unwritten_done ran)
  | some user =>
    cases runs_abbandonaProgetto ran with
    | nonTrovato => exact absurd (haScritto_get.mp wrote) not_haScritto_nil
    | nonRimosso =>
      exact absurd (haScritto_error.mp (haScritto_get.mp wrote)) not_haScritto_nil
    | nonRiletto => exact absurd List.mem_cons_self whole.tail.tail.not_get
    | nonEliminato => exact absurd List.mem_cons_self whole.tail.tail.tail.not_delete
    | illeggibile found unread => exact ⟨user, _, rfl, found, .inl unread⟩
    | rimasto found read some told => exact ⟨user, _, rfl, found, .inr ⟨_, read, .inl ⟨some, rfl⟩⟩⟩
    | eliminato found read told => exact ⟨user, _, rfl, found, .inr ⟨_, read, .inr ⟨rfl, rfl⟩⟩⟩

theorem scritto_aggiorna {vm : ProgettoViewModel} {id nome descrizione : String}
    {dataScadenza : DateTime} {priorita : Priorita} {completato : Bool} {voto : String}
    {dataConsegna : DateTime} {out : Except Thrown Unit}
    (run : Runs network (TeamCall.suProgetto (.aggiorna vm id nome descrizione dataScadenza priorita
      completato voto dataConsegna)).process s calls out final) (wrote : HaScritto calls) :
    ∃ d progetto, s.get .progetti id = some d ∧ Progetto.Decodes id d progetto ∧
      final = s.put .progetti id (aggiornaProgettoMap (modificato progetto nome descrizione
        dataScadenza priorita completato voto dataConsegna)) := by
  obtain ⟨out, ran⟩ := run.of_map
  rw [aggiorna_process] at ran
  obtain ⟨choice, reply, mid, rest, answered, loaded, rfl⟩ := runs_call_iff.mp ran
  obtain ⟨rfl, stored⟩ := network_get answered
  replace wrote := haScritto_get.mp wrote
  rcases reply with e | _ | d
  · exact absurd wrote (unwritten_done loaded)
  · exact absurd wrote (unwritten_done loaded)
  simp only at loaded
  split at loaded
  · next progetto read =>
    refine ⟨d, progetto, (stored _ rfl).symm, Progetto.fromFirestore_eq_ok.mp read, ?_⟩
    obtain ⟨choice, answer, answered⟩ := runs_first_scritto (fun reply => by
      cases reply with
      | error e => trivial
      | ok _ => exact (reads_ricarica vm).quiet) loaded wrote
    rcases network_set answered with ⟨e, same, -⟩ | ⟨-, same⟩
    · cases same
    · exact same
  · exact absurd wrote (unwritten_done loaded)

end Team

end TeamSync
