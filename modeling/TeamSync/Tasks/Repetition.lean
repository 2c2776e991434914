import TeamSync.Library.Sequence
import TeamSync.Tasks.Runs

/-! Repeated assignees, over sequences of complete calls of the view model. -/

set_option autoImplicit false

namespace TeamSync.Tasks

open Effects

inductive TaskCall where
  | getAttivitaByProgettoId (progettoId : String)
  | addTodo (zone : Zone) (oggi now : DateTime) (titolo descrizione : String)
      (dataScadenza : DateTime) (completato : Bool) (proprietario progetto : String)
      (priorita : Priorita)
  | addUserTodo (idUtente idTask : String)
  | removeUserTodo (idUtente idTask : String)
  | updateTodo (zone : Zone) (oggi now : DateTime) (id titolo descrizione : String)
      (dataScadenza dataCreazione : DateTime) (progetto : String) (utenti : List String)
      (completato : Bool) (priorita : Priorita)
  | completeTodo (id : String) (completato : Bool)
  | deleteTodo (id : String)

def TaskCall.process : TaskCall → App Unit
  | .getAttivitaByProgettoId progettoId =>
    (fun _ => ()) <$> TodoRepository.getAttivitaByProgettoId progettoId
  | .addTodo zone oggi now titolo descrizione dataScadenza completato proprietario progetto
      priorita =>
    (fun _ => ()) <$> LeMieAttivitaViewModel.addTodo zone oggi now titolo descrizione dataScadenza
      completato proprietario progetto priorita
  | .addUserTodo idUtente idTask => LeMieAttivitaViewModel.addUserTodo idUtente idTask
  | .removeUserTodo idUtente idTask => LeMieAttivitaViewModel.removeUserTodo idUtente idTask
  | .updateTodo zone oggi now id titolo descrizione dataScadenza dataCreazione progetto utenti
      completato priorita =>
    (fun _ => ()) <$> LeMieAttivitaViewModel.updateTodo zone oggi now id titolo descrizione
      dataScadenza dataCreazione progetto utenti completato priorita
  | .completeTodo id completato =>
    (fun _ => ()) <$> LeMieAttivitaViewModel.completeTodo id completato
  | .deleteTodo id => (fun _ => ()) <$> LeMieAttivitaViewModel.deleteTodo id

abbrev Svolte := List (Completed TaskCall firestore Thrown)

def Elencato (history : Svolte) (id : String) (d : Document) : Prop :=
  ∃ entry ∈ history, ∃ progettoId docs, entry.call = .getAttivitaByProgettoId progettoId ∧
    ⟨.query .todo [.isEqualTo "progetto" (.string progettoId)], .ok docs⟩ ∈ entry.exchanges ∧
      (id, d) ∈ docs

/-- An update has the assignees of the task as it was read. -/
def ListaLetta (history : Svolte) (_ : Store) : TaskCall → Prop
  | .updateTodo _ _ _ id _ _ _ _ _ utenti _ _ =>
    ∃ d a, Elencato history id d ∧ LeMieAttivita.Decodes id d a ∧ a.utenti = utenti
  | _ => True

def SenzaRipetere (history : Svolte) (s : Store) (call : TaskCall) : Prop :=
  ListaLetta history s call ∧ ∀ user id, call = .addUserTodo user id → ¬ s.assegnato id user

def Distinti (s : Store) : Prop := ∀ id d, s.get .todo id = some d → d.assegnatari.Nodup

section
variable {s final : Store} {id user : String} {d : Document} {utenti : List String}
    {calls : List (Exchange firestore Thrown)} {out : Except Thrown Unit}

theorem nodup_items_iff : (utenti.map Item.string).Nodup ↔ utenti.Nodup :=
  List.nodup_map_iff fun _ _ same => Item.string.inj same

theorem assegnatari_writes (utenti : List String) (d : Document) :
    (d.writes [("utenti", .value (.strings utenti))]).assegnatari = utenti.map .string := rfl

theorem Distinti.put (distinct : Distinti s) (given : d.assegnatari.Nodup) :
    Distinti (s.put .todo id d) := by
  intro key d' stored
  rw [Store.get_put] at stored
  split at stored
  · cases stored
    exact given
  · exact distinct key d' stored

theorem Distinti.erase (distinct : Distinti s) : Distinti (s.erase .todo id) := by
  intro key d stored
  rw [Store.get_erase] at stored
  split at stored
  · cases stored
  · exact distinct key d stored

theorem assegnato_iff {a : LeMieAttivita} (stored : s.get .todo id = some d)
    (decodes : LeMieAttivita.Decodes id d a) : s.assegnato id user ↔ user ∈ a.utenti := by
  have same : Item.string user ∈ d.assegnatari ↔ user ∈ a.utenti := by
    rw [decodes.assegnatari]
    simp
  rw [← same]
  constructor
  · rintro ⟨d', found, member⟩
    cases stored.symm.trans found
    exact member
  · exact fun member => ⟨d, stored, member⟩

theorem Distinti.esito {call : Delega} (distinct : Distinti s)
    (fresh : ∀ user, call = .aggiungi user → ¬ s.assegnato id user)
    (ended : Esito id call s calls out final) : Distinti final := by
  have written : ∀ {d a}, s.get .todo id = some d → LeMieAttivita.Decodes id d a →
      (d.writes [("utenti", .value (.strings (call.lista a.utenti)))]).assegnatari.Nodup := by
    intro d a found decodes
    have before := distinct id d found
    rw [decodes.assegnatari, nodup_items_iff] at before
    rw [assegnatari_writes, nodup_items_iff]
    cases call with
    | aggiungi user =>
      have absent : user ∉ a.utenti := fun member =>
        fresh user rfl ((assegnato_iff found decodes).mpr member)
      exact List.nodup_append_comm.mp (List.nodup_cons.mpr ⟨absent, before⟩)
    | rimuovi user => exact before.erase user
  cases ended with
  | rifiutata _ => exact distinct
  | scritta found decodes | interrotta found decodes => exact distinct.put (written found decodes)
  | cancellata found decodes => exact (distinct.put (written found decodes)).erase

theorem esito_addUserTodo
    (run : Runs network (LeMieAttivitaViewModel.addUserTodo user id) s calls out final) :
    ∃ ended, Esito id (.aggiungi user) s calls ended final ∧ (out = .ok () → ended = .ok ()) := by
  rcases runs_rethrow_iff.mp run with ⟨a, ran, rfl⟩ | ⟨e, ran, rfl⟩
  · exact ⟨.ok a, runs_esito ran, fun _ => rfl⟩
  · exact ⟨.error e, runs_esito ran, nofun⟩

theorem esito_removeUserTodo
    (run : Runs network (LeMieAttivitaViewModel.removeUserTodo user id) s calls out final) :
    ∃ ended, Esito id (.rimuovi user) s calls ended final ∧ (out = .ok () → ended = .ok ()) := by
  rcases runs_rethrow_iff.mp run with ⟨a, ran, rfl⟩ | ⟨e, ran, rfl⟩
  · exact ⟨.ok a, runs_esito ran, fun _ => rfl⟩
  · exact ⟨.error e, runs_esito ran, nofun⟩

theorem Distinti.nodup {a : LeMieAttivita} (distinct : Distinti s)
    (found : s.get .todo id = some d) (decodes : LeMieAttivita.Decodes id d a) :
    a.utenti.Nodup := by
  have nodup := distinct id d found
  rwa [decodes.assegnatari, nodup_items_iff] at nodup

theorem not_assegnato_put_erase {a : LeMieAttivita} (nodup : a.utenti.Nodup) :
    ¬ (s.put .todo id (d.writes [("utenti", .value (.strings (a.utenti.erase user)))])).assegnato id
      user := by
  rintro ⟨d', stored, member⟩
  rw [Store.get_put_self] at stored
  cases stored
  rw [assegnatari_writes] at member
  simp only [List.mem_map, Item.string.injEq, exists_eq_right] at member
  exact nodup.not_mem_erase member

theorem not_assegnato_erase : ¬ (s.erase .todo id).assegnato id user := by
  rintro ⟨d, stored, -⟩
  rw [Store.get_erase_self] at stored
  cases stored

theorem not_assegnato_of_removeUserTodo (distinct : Distinti s)
    (run : Runs network (LeMieAttivitaViewModel.removeUserTodo user id) s calls (.ok ()) final) :
    ¬ final.assegnato id user := by
  obtain ⟨ended, ran, normal⟩ := esito_removeUserTodo run
  cases normal rfl
  cases ran with
  | scritta found decodes => exact not_assegnato_put_erase (distinct.nodup found decodes)
  | cancellata _ _ => exact not_assegnato_erase

theorem runs_utenteAssegnato {out : Except Thrown Bool} (unassigned : ¬ s.assegnato id user)
    (run : Runs network (LeMieAttivitaViewModel.utenteAssegnato user id) s calls out final) :
    out = .ok false := by
  obtain ⟨choice, reply, mid, rest, answered, after, -⟩ := runs_call_iff.mp run
  obtain ⟨rfl, stored⟩ := network_get answered
  rcases reply with e | _ | d
  · exact (runs_done_iff.mp after).2.1
  · exact (runs_done_iff.mp after).2.1
  · have found := (stored _ rfl).symm
    simp only [Process.ofExcept_ok, Process.bind_done] at after
    split at after
    · next items field =>
      have absent : Item.string user ∉ items := fun member =>
        unassigned ⟨d, found, by rwa [Document.assegnatari, field]⟩
      rw [decide_eq_false absent] at after
      exact (runs_done_iff.mp after).2.1
    · exact (runs_done_iff.mp after).2.1
    · exact (runs_done_iff.mp after).2.1

theorem distinti_addUserTodo_iff (distinct : Distinti s)
    (run : Runs network (LeMieAttivitaViewModel.addUserTodo user id) s calls (.ok ()) final) :
    Distinti final ↔ ¬ s.assegnato id user := by
  obtain ⟨ended, ran, normal⟩ := esito_addUserTodo run
  cases normal rfl
  constructor
  · intro kept
    cases ran with
    | scritta found decodes =>
      have nodup := kept id _ (Store.get_put_self _ _ _ _)
      rw [assegnatari_writes, nodup_items_iff] at nodup
      rw [assegnato_iff found decodes]
      exact fun member => List.disjoint_of_nodup_append nodup member (List.mem_singleton_self user)
    | cancellata _ _ _ none => exact absurd none (List.append_ne_nil_of_right_ne_nil _ nofun)
  · intro fresh
    refine distinct.esito (fun other same => ?_) ran
    cases same
    exact fresh

end

/-! ## Steps -/

structure TuttiDistinti (history : Svolte) (s : Store) : Prop where
  stored : Distinti s
  shown : ∀ id d, Elencato history id d → d.assegnatari.Nodup

section
variable {history : Svolte} {s final : Store} {call : TaskCall}
    {calls : List (Exchange firestore Thrown)} {out : Except Thrown Unit}

theorem quiet_elenca (progettoId : String) :
    Quiet (TaskCall.getAttivitaByProgettoId progettoId).process :=
  .bind (quiet_lista _ _ _) fun _ => trivial

theorem TuttiDistinti.stored_step (holds : TuttiDistinti history s)
    (allowed : SenzaRipetere history s call) (run : Runs network call.process s calls out final) :
    Distinti final := by
  cases call with
  | getAttivitaByProgettoId progettoId =>
    rw [runs_quiet (quiet_elenca progettoId) run]
    exact holds.stored
  | addTodo =>
    obtain ⟨out, ran⟩ := run.of_map
    rcases runs_viewModel_addTodo ran with rfl | ⟨-, newId, -, rfl⟩
    · exact holds.stored
    -- the owner is the only assignee
    · exact holds.stored.put (List.nodup_singleton _)
  | addUserTodo idUtente idTask =>
    obtain ⟨ended, ran, -⟩ := esito_addUserTodo run
    refine holds.stored.esito (fun user same => ?_) ran
    cases same
    exact allowed.2 _ _ rfl
  | removeUserTodo idUtente idTask =>
    obtain ⟨ended, ran, -⟩ := esito_removeUserTodo run
    exact holds.stored.esito (fun _ same => by cases same) ran
  | updateTodo =>
    obtain ⟨out, ran⟩ := run.of_map
    obtain ⟨d, a, listed, decodes, same⟩ := allowed.1
    rcases runs_viewModel_updateTodo ran with ⟨rfl, -⟩ | ⟨-, rfl⟩
    · exact holds.stored
    · refine holds.stored.put ?_
      have nodup := holds.shown _ d listed
      rw [decodes.assegnatari, same] at nodup
      exact nodup
  | completeTodo id completato =>
    obtain ⟨out, ran⟩ := run.of_map
    rcases runs_viewModel_completeTodo ran with rfl | ⟨d, found, rfl⟩
    · exact holds.stored
    · exact holds.stored.put (holds.stored id d found)
  | deleteTodo id =>
    obtain ⟨out, ran⟩ := run.of_map
    rcases runs_viewModel_deleteTodo ran with rfl | rfl
    · exact holds.stored
    · exact holds.stored.erase

theorem TuttiDistinti.shown_step (holds : TuttiDistinti history s)
    (run : Runs network call.process s calls out final) (id : String) (d : Document)
    (listed : Elencato (⟨call, calls⟩ :: history) id d) : d.assegnatari.Nodup := by
  obtain ⟨entry, member, progettoId, docs, named, asked, there⟩ := listed
  rcases List.mem_cons.mp member with rfl | earlier
  · cases named
    exact holds.stored id d (runs_quiet_query (quiet_elenca progettoId) run asked there)
  · exact holds.shown id d ⟨entry, earlier, progettoId, docs, named, asked, there⟩

end

/-- In every run in which a user is added only to tasks that he is not assigned to:
no task has a repeated assignee, and after a removal the user is not assigned. One
more addition keeps this just when it meets the same condition. -/
theorem assignees_never_repeat {history : Svolte} {s : Store}
    (sequence : Sequence network TaskCall.process SenzaRipetere Store.empty history s) :
    Distinti s ∧
    (∀ user id calls after,
      Runs network (LeMieAttivitaViewModel.removeUserTodo user id) s calls (.ok ()) after →
      ∀ calls' out final,
        Runs network (LeMieAttivitaViewModel.utenteAssegnato user id) after calls' out final →
          out = .ok false) ∧
    ∀ user id calls after,
      Runs network (LeMieAttivitaViewModel.addUserTodo user id) s calls (.ok ()) after →
        (Distinti after ↔ ¬ s.assegnato id user) := by
  have holds : TuttiDistinti history s := by
    refine sequence.invariant ?_ ?_
    · intro history mid call exchanges out final holds allowed run
      exact ⟨holds.stored_step allowed run, holds.shown_step run⟩
    · refine ⟨fun id d found => ?_, fun id d shown => ?_⟩
      · cases found
      · obtain ⟨entry, member, -⟩ := shown
        cases member
  exact ⟨holds.stored, fun user id calls after removed calls' out final asked =>
    runs_utenteAssegnato (not_assegnato_of_removeUserTodo holds.stored removed) asked,
    fun user id calls after added => distinti_addUserTodo_iff holds.stored added⟩

/-! ## Bruno, added twice -/

def annaCrea : TaskCall :=
  .addTodo 0 ⟨0, false⟩ ⟨0, false⟩ "Capitolo 1" "Prima stesura" ⟨microsPerDay, false⟩ false "anna"
    "p" .media

theorem assignees_never_repeat_bruno : ∃ history s,
    Sequence network TaskCall.process SenzaRipetere Store.empty history s ∧
    s.assegnato "t" "bruno" ∧ Distinti s := by
  have empty : Sequence network TaskCall.process SenzaRipetere Store.empty
    [] Store.empty := .start
  have created := empty.alone annaCrea [.inr "t"] ⟨trivial, nofun⟩ rfl
  have fresh : ¬ (Store.empty.put .todo "t" (LeMieAttivita.new ⟨0, false⟩ none "Capitolo 1"
      "Prima stesura" ⟨microsPerDay, false⟩ .media false "p" ["anna"] none none).toMap).assegnato
        "t" "bruno" := by
    rintro ⟨d, found, member⟩
    cases found
    have alone : Item.string "bruno" ∈ [Item.string "anna"] := member
    simp at alone
  have added := created.alone (.addUserTodo "bruno" "t") [.inr "", .inr ""]
    ⟨trivial, fun user id same => by cases same; exact fresh⟩ rfl
  refine ⟨_, _, added, ⟨_, rfl, ?_⟩, (assignees_never_repeat added).1⟩
  exact List.mem_cons_of_mem _ List.mem_cons_self

/-- Bruno is added twice and removed once without error, and he is still assigned. -/
theorem bruno_still_assigned : ∃ history s calls after d calls',
    Sequence service TaskCall.process ListaLetta Store.empty history s ∧
    s.get .todo "t" = some d ∧
    d.assegnatari = [.string "anna", .string "bruno", .string "bruno"] ∧
    Runs service (LeMieAttivitaViewModel.removeUserTodo "bruno" "t") s calls (.ok ()) after ∧
    Runs service (LeMieAttivitaViewModel.utenteAssegnato "bruno" "t") after calls' (.ok true)
      after := by
  have empty : Sequence service TaskCall.process ListaLetta Store.empty
    [] Store.empty := .start
  have created := empty.alone annaCrea ["t"] trivial rfl
  have added := created.alone (.addUserTodo "bruno" "t") ["", ""] trivial rfl
  have again := added.alone (.addUserTodo "bruno" "t") ["", ""] trivial rfl
  exact ⟨_, _, _, _, _, _, again, rfl, rfl, .of_runAlone ["", ""] rfl, .of_runAlone [""] rfl⟩

end TeamSync.Tasks
