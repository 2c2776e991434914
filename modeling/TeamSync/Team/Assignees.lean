import TeamSync.Team.Orphans

/-! Assignees and participants, over sequences of complete calls. -/

set_option autoImplicit false

namespace TeamSync.Team

open Effects Projects Tasks

def Letto (history : Storia) (id : String) (d : Document) : Prop :=
  ∃ entry ∈ history, ∃ progettoId docs, entry.call = .getAttivitaByProgettoId progettoId ∧
    ⟨.query .todo [.isEqualTo "progetto" (.string progettoId)], .ok docs⟩ ∈ entry.exchanges ∧
      (id, d) ∈ docs

/-- Projects are created by a user for himself, tasks by a participant for himself
in his project; assignees are added from the participants of the task's project,
and an update keeps the project and the assignees of the task as it was shown. -/
def TraPartecipanti (history : Storia) (s : Store) : TeamCall → Prop
  | .suProgetto (.aggiorna ..) | .updateDataScadenzaTodo .. => False
  | .addProgetto _ _ _ _ _ _ _ _ partecipanti => ∃ user, partecipanti = [user]
  | .addTodo _ _ _ _ _ _ _ proprietario progetto _ => s.partecipa progetto proprietario
  | .updateTodo _ _ _ id _ _ _ _ progetto utenti _ _ =>
    ∃ d a, Letto history id d ∧ LeMieAttivita.Decodes id d a ∧ a.progetto = progetto ∧
      a.utenti = utenti
  | .delega id (.aggiungi user) =>
    ∀ d progettoId, s.get .todo id = some d → d "progetto" = some (.string progettoId) →
      s.partecipa progettoId user
  | _ => True

def Abbandonato (history : Storia) (progettoId user : String) : Prop :=
  ∃ entry ∈ history, entry.call = .suProgetto (.membro (.abbandona (some user) progettoId)) ∧
    ⟨opAbbandona user progettoId, .ok ()⟩ ∈ entry.exchanges

/-- The user takes part in the project, or has left it, or the project is gone. -/
def Legittimo (history : Storia) (s : Store) (progettoId user : String) : Prop :=
  s.get .progetti progettoId ≠ none → s.partecipa progettoId user ∨
    Abbandonato history progettoId user

/-- The document is a task of a project that has existed, with legitimate assignees. -/
def BenAssegnato (history : Storia) (s : Store) (d : Document) : Prop :=
  ∃ progettoId, d "progetto" = some (.string progettoId) ∧ s.Used .progetti progettoId ∧
    ∀ user, .string user ∈ d.assegnatari → Legittimo history s progettoId user

structure TuttiBenAssegnati (history : Storia) (s : Store) : Prop where
  stored : ∀ id d, s.get .todo id = some d → BenAssegnato history s d
  shown : ∀ id d, Letto history id d → BenAssegnato history s d

section
variable {history : Storia} {entry : Completed TeamCall firestore Thrown} {s final : Store}
    {d : Document}

theorem Abbandonato.later {progettoId user : String} (left : Abbandonato history progettoId user) :
    Abbandonato (entry :: history) progettoId user := by
  obtain ⟨earlier, member, rest⟩ := left
  exact ⟨earlier, List.mem_cons_of_mem _ member, rest⟩

/-- What a call does to the projects: none that has existed is created, and nobody
stops taking part but by leaving. -/
structure Conserva (entry : Completed TeamCall firestore Thrown) (s final : Store) : Prop where
  used : ∀ progettoId, s.Used .progetti progettoId → final.Used .progetti progettoId
  exists' : ∀ progettoId, s.Used .progetti progettoId → final.get .progetti progettoId ≠ none →
    s.get .progetti progettoId ≠ none
  partecipa : ∀ progettoId user, s.partecipa progettoId user →
    final.get .progetti progettoId ≠ none →
    final.partecipa progettoId user ∨ Abbandonato [entry] progettoId user

theorem BenAssegnato.later (proper : BenAssegnato history s d) (keeps : Conserva entry s final) :
    BenAssegnato (entry :: history) final d := by
  obtain ⟨progettoId, field, used, legitimate⟩ := proper
  refine ⟨progettoId, field, keeps.used _ used, fun user assigned stored => ?_⟩
  rcases legitimate user assigned (keeps.exists' _ used stored) with takesPart | left
  · rcases keeps.partecipa _ user takesPart stored with still | ⟨earlier, member, rest⟩
    · exact .inl still
    · rw [List.mem_singleton] at member
      exact .inr ⟨earlier, member ▸ List.mem_cons_self, rest⟩
  · exact .inr left.later

theorem Conserva.of_projects (same : ∀ id, final.get .progetti id = s.get .progetti id)
    (used : ∀ id, s.Used .progetti id → final.Used .progetti id) : Conserva entry s final := by
  refine ⟨used, fun progettoId _ stored => by rwa [same] at stored,
    fun progettoId user takesPart _ => .inl ?_⟩
  obtain ⟨d, found, member⟩ := takesPart
  exact ⟨d, by rw [same, found], member⟩

theorem Conserva.refl : Conserva entry s s := .of_projects (fun _ => rfl) fun _ used => used

theorem Conserva.putTodo {key : String} : Conserva entry s (s.put .todo key d) :=
  .of_projects (fun id => by rw [Store.get_put_other (by decide)]) fun _ used => used.put

theorem Conserva.eraseTodo {key : String} (keeps : Conserva entry s final) :
    Conserva entry s (final.erase .todo key) := by
  have same : ∀ id, (final.erase .todo key).get .progetti id = final.get .progetti id :=
    fun id => by
    rw [Store.get_erase_other (by decide)]
  refine ⟨fun id used => (keeps.used id used).erase, fun id used stored => ?_,
    fun id user takesPart stored => ?_⟩
  · rw [same] at stored
    exact keeps.exists' id used stored
  · rw [same] at stored
    refine (keeps.partecipa id user takesPart stored).imp_left ?_
    rintro ⟨d, found, member⟩
    exact ⟨d, by rw [same, found], member⟩

theorem conserva_unisciti {u id : String} (found : s.get .progetti id = some d) :
    Conserva entry s (s.put .progetti id (d.entra u)) := by
  refine ⟨fun _ used => used.put, fun other _ stored => ?_, fun other user takesPart _ => .inl ?_⟩
  · by_cases same : other = id
    · rw [same, found]
      exact Option.some_ne_none _
    · rwa [Store.get_put_of_ne same] at stored
  · rw [Store.partecipa_put]
    split
    · next same =>
      subst same
      exact Document.partecipa_entra.mpr (.inr ((Store.partecipa_of_get found).mp takesPart))
    · exact takesPart

theorem conserva_addProgetto {newId : String} (fresh : newId ∉ (s .progetti).used) :
    Conserva entry s (s.put .progetti newId d) := by
  refine ⟨fun _ used => used.put, fun other used stored => ?_, fun other user takesPart _ =>
    .inl ?_⟩
  · have differ : other ≠ newId := by
      rintro rfl
      exact fresh used
    rwa [Store.get_put_of_ne differ] at stored
  · have differ : other ≠ newId := by
      rintro rfl
      obtain ⟨d', found, -⟩ := takesPart
      exact fresh (Store.used_of_get found)
    rwa [Store.partecipa_put, if_neg differ]

theorem conserva_abbandona {u id : String} {exchanges : List (Exchange firestore Thrown)}
    (found : s.get .progetti id = some d) (left : Uscito u id s d exchanges final) :
    Conserva ⟨.suProgetto (.membro (.abbandona (some u) id)), exchanges⟩ s final := by
  obtain ⟨removed, after⟩ := left
  have get : ∀ other, other ≠ id → final.get .progetti other = s.get .progetti other := by
    intro other differ
    rcases after with rfl | ⟨-, -, rfl⟩
    · rw [Store.get_put_of_ne differ]
    · rw [Store.get_erase_of_ne differ, Store.get_put_of_ne differ]
  refine ⟨fun other used => ?_, fun other used stored => ?_, fun other user takesPart stored => ?_⟩
  · rcases after with rfl | ⟨-, -, rfl⟩
    · exact used.put
    · exact used.put.erase
  · by_cases same : other = id
    · rw [same, found]
      exact Option.some_ne_none _
    · rwa [get other same] at stored
  · by_cases same : other = id
    · subst same
      -- the one who leaves is the only one who stops taking part
      by_cases self : user = u
      · subst self
        exact .inr ⟨_, List.mem_singleton_self _, rfl, removed⟩
      · rcases after with rfl | ⟨-, -, rfl⟩
        · refine .inl ?_
          rw [Store.partecipa_put, if_pos rfl]
          exact Document.partecipa_esce.mpr ⟨(Store.partecipa_of_get found).mp takesPart, self⟩
        · rw [Store.get_erase_self] at stored
          exact absurd rfl stored
    · refine .inl ?_
      obtain ⟨d', found', member⟩ := takesPart
      exact ⟨d', by rw [get other same, found'], member⟩

/-! ## Documents of tasks -/

theorem assegnatari_toMap (a : LeMieAttivita) : a.toMap.assegnatari = a.utenti.map .string := rfl

theorem mem_assegnatari_map {user : String} {utenti : List String} :
    Item.string user ∈ utenti.map Item.string ↔ user ∈ utenti := by
  simp

theorem BenAssegnato.completato {completato : Bool} (proper : BenAssegnato history s d) :
    BenAssegnato history s (d.writes [("completato", .value (.bool completato))]) := by
  obtain ⟨progettoId, field, used, legitimate⟩ := proper
  refine ⟨progettoId, ?_, used, fun user assigned => legitimate user ?_⟩
  · rwa [Document.writes_one, Function.update_of_ne (by decide)]
  · rw [Document.assegnatari, Document.writes_one, Function.update_of_ne (by decide)] at assigned
    exact assigned

theorem BenAssegnato.utenti {utenti : List String} (proper : BenAssegnato history s d)
    (legitimate : ∀ progettoId user, d "progetto" = some (.string progettoId) → user ∈ utenti →
      .string user ∈ d.assegnatari ∨ s.partecipa progettoId user) :
    BenAssegnato history s (d.writes [("utenti", .value (.strings utenti))]) := by
  obtain ⟨progettoId, field, used, before⟩ := proper
  refine ⟨progettoId, ?_, used, fun user assigned stored => ?_⟩
  · rwa [Document.writes_one, Function.update_of_ne (by decide)]
  · have member : user ∈ utenti := by
      rw [Document.assegnatari, Document.writes_one, Function.update_self] at assigned
      exact mem_assegnatari_map.mp assigned
    rcases legitimate progettoId user field member with already | takesPart
    · exact before user already stored
    · exact .inl takesPart

theorem BenAssegnato.toMap {id : String} {a b : LeMieAttivita} (proper : BenAssegnato history s d)
    (decodes : LeMieAttivita.Decodes id d a) (progetto : b.progetto = a.progetto)
    (utenti : b.utenti = a.utenti) :
    BenAssegnato history s b.toMap := by
  obtain ⟨progettoId, field, used, legitimate⟩ := proper
  have same : progettoId = a.progetto := by
    have read := decodes.progetto
    rw [field] at read
    exact Except.ok.inj read
  refine ⟨progettoId, ?_, used, fun user assigned => legitimate user ?_⟩
  · rw [same, ← progetto]
    rfl
  · rw [assegnatari_toMap, utenti] at assigned
    rwa [decodes.assegnatari]

theorem BenAssegnato.eraseTodo {key : String} (proper : BenAssegnato history s d) :
    BenAssegnato history (s.erase .todo key) d := by
  have same : ∀ id, (s.erase .todo key).get .progetti id = s.get .progetti id := fun id => by
    rw [Store.get_erase_other (by decide)]
  obtain ⟨progettoId, field, used, legitimate⟩ := proper
  refine ⟨progettoId, field, used.erase, fun user assigned stored => ?_⟩
  rw [same] at stored
  refine (legitimate user assigned stored).imp_left ?_
  rintro ⟨d', found, member⟩
  exact ⟨d', by rw [same, found], member⟩

theorem TuttiBenAssegnati.putTodo {key id : String} {d' : Document}
    (holds : TuttiBenAssegnati history s) (proper : BenAssegnato history s d)
    (found : (s.put .todo key d).get .todo id = some d') :
    BenAssegnato (entry :: history) (s.put .todo key d) d' := by
  rw [Store.get_put] at found
  split at found
  · cases found
    exact proper.later .putTodo
  · exact (holds.stored id d' found).later .putTodo

end

/-! ## Steps -/

section
variable {history : Storia} {s final : Store} {exchanges : List (Exchange firestore Thrown)}

theorem conserva_suProgetto {call : ProjectCall} {out : Except Thrown Result}
    (allowed : TraPartecipanti history s (.suProgetto call))
    (run : Runs network call.process s exchanges out final) :
    Conserva ⟨.suProgetto call, exchanges⟩ s final ∧ ∀ id, final.get .todo id = s.get .todo id := by
  match call with
  | .membro (.unisciti userId codice) =>
    rcases runs_unisciti run with rfl | ⟨id, d, found, rfl⟩
    · exact ⟨.refl, fun _ => rfl⟩
    · exact ⟨conserva_unisciti found, fun id => by rw [Store.get_put_other (by decide)]⟩
  | .membro (.abbandona userId progettoId) =>
    rcases runs_abbandona run with rfl | ⟨user, d, rfl, found, left⟩
    · exact ⟨.refl, fun _ => rfl⟩
    · refine ⟨conserva_abbandona found left, fun id => ?_⟩
      rcases left.2 with rfl | ⟨-, -, rfl⟩
      · rw [Store.get_put_other (by decide)]
      · rw [Store.get_erase_other (by decide), Store.get_put_other (by decide)]
  | .aggiorna .. => exact False.elim allowed

theorem stored_delega {id : String} {call : Delega} {out : Except Thrown Unit}
    (holds : TuttiBenAssegnati history s) (allowed : TraPartecipanti history s (.delega id call))
    (run : Runs network (call.process id) s exchanges out final) :
    Conserva ⟨.delega id call, exchanges⟩ s final ∧
      ∀ key d, final.get .todo key = some d →
        BenAssegnato (⟨.delega id call, exchanges⟩ :: history) final d := by
  rcases runs_delega run with ⟨-, rfl⟩ | ⟨d, a, found, decodes, written⟩
  · exact ⟨.refl, fun key d stored => (holds.stored key d stored).later .refl⟩
  have proper : BenAssegnato history s
      (d.writes [("utenti", .value (.strings (call.lista a.utenti)))]) := by
    refine (holds.stored id d found).utenti fun progettoId user field member => ?_
    rw [decodes.assegnatari, mem_assegnatari_map]
    -- an added user takes part in the project, a removal adds nobody
    cases call with
    | aggiungi added =>
      rcases List.mem_append.mp member with already | same
      · exact .inl already
      · rw [List.mem_singleton] at same
        exact .inr (same ▸ allowed d progettoId found field)
    | rimuovi gone => exact .inl (List.mem_of_mem_erase member)
  rcases written with rfl | rfl
  · exact ⟨.putTodo, fun key d' stored => holds.putTodo proper stored⟩
  · refine ⟨Conserva.putTodo.eraseTodo, fun key d' stored => ?_⟩
    rw [Store.get_erase] at stored
    split at stored
    · cases stored
    · exact (holds.putTodo proper stored).eraseTodo

theorem stored_step {call : TeamCall} {out : Except Thrown Unit}
    (holds : TuttiBenAssegnati history s) (allowed : TraPartecipanti history s call)
    (run : Runs network call.process s exchanges out final) :
    Conserva ⟨call, exchanges⟩ s final ∧
      ∀ id d, final.get .todo id = some d →
        BenAssegnato (⟨call, exchanges⟩ :: history) final d := by
  have unchanged : ∀ {entry}, Conserva entry s final → (∀ id, final.get .todo id = s.get .todo id) →
      ∀ id d, final.get .todo id = some d → BenAssegnato (entry :: history) final d := by
    intro entry keeps same id d stored
    rw [same] at stored
    exact (holds.stored id d stored).later keeps
  cases call with
  | suProgetto call =>
    obtain ⟨out, ran⟩ := run.of_map
    obtain ⟨keeps, same⟩ := conserva_suProgetto allowed ran
    exact ⟨keeps, unchanged keeps same⟩
  | addProgetto =>
    obtain ⟨out, ran⟩ := run.of_map
    rcases runs_addProgetto ran with rfl | ⟨newId, fresh, rfl⟩
    · exact ⟨.refl, unchanged .refl fun _ => rfl⟩
    · exact ⟨conserva_addProgetto fresh, unchanged (conserva_addProgetto fresh) fun id => by
        rw [Store.get_put_other (by decide)]⟩
  | getAttivitaByProgettoId progettoId =>
    cases runs_quiet (quiet_getAttivita progettoId) run
    exact ⟨.refl, unchanged .refl fun _ => rfl⟩
  | addTodo _ _ _ _ _ _ _ proprietario progetto =>
    obtain ⟨out, ran⟩ := run.of_map
    rcases runs_viewModel_addTodo ran with rfl | ⟨-, newId, -, rfl⟩
    · exact ⟨.refl, unchanged .refl fun _ => rfl⟩
    · refine ⟨.putTodo, fun id d stored => holds.putTodo ?_ stored⟩
      obtain ⟨d', found, member⟩ := allowed
      -- the only assignee is the participant who adds the task
      refine ⟨progetto, rfl, Store.used_of_get found, fun user assigned _ => .inl ?_⟩
      rw [assegnatari_toMap, mem_assegnatari_map] at assigned
      cases List.mem_singleton.mp assigned
      exact ⟨d', found, member⟩
  | updateTodo =>
    obtain ⟨out, ran⟩ := run.of_map
    rcases runs_viewModel_updateTodo ran with ⟨rfl, -⟩ | ⟨-, rfl⟩
    · exact ⟨.refl, unchanged .refl fun _ => rfl⟩
    -- the save writes the project and the assignees of a document that was shown
    · obtain ⟨d', a, shown, decodes, progetto, utenti⟩ := allowed
      exact ⟨.putTodo, fun id d stored =>
        holds.putTodo ((holds.shown _ d' shown).toMap decodes progetto.symm utenti.symm) stored⟩
  | updateDataScadenzaTodo => exact False.elim allowed
  | completeTodo id completato =>
    obtain ⟨out, ran⟩ := run.of_map
    rcases runs_viewModel_completeTodo ran with rfl | ⟨d, found, rfl⟩
    · exact ⟨.refl, unchanged .refl fun _ => rfl⟩
    · exact ⟨.putTodo, fun key d' stored =>
        holds.putTodo (holds.stored id d found).completato stored⟩
  | delega id call => exact stored_delega holds allowed run
  | deleteTodo id =>
    obtain ⟨out, ran⟩ := run.of_map
    rcases runs_viewModel_deleteTodo ran with rfl | rfl
    · exact ⟨.refl, unchanged .refl fun _ => rfl⟩
    · refine ⟨Conserva.refl.eraseTodo, fun key d stored => ?_⟩
      rw [Store.get_erase] at stored
      split at stored
      · cases stored
      · exact ((holds.stored key d stored).later .refl).eraseTodo

theorem shown_step {call : TeamCall} {out : Except Thrown Unit}
    (holds : TuttiBenAssegnati history s) (run : Runs network call.process s exchanges out final)
    (keeps : Conserva ⟨call, exchanges⟩ s final)
    (id : String) (d : Document) (shown : Letto (⟨call, exchanges⟩ :: history) id d) :
    BenAssegnato (⟨call, exchanges⟩ :: history) final d := by
  obtain ⟨entry, member, progettoId, docs, listing, asked, listed⟩ := shown
  rcases List.mem_cons.mp member with rfl | earlier
  · cases listing
    exact (holds.stored id d
      (runs_quiet_query (quiet_getAttivita progettoId) run asked listed)).later keeps
  · exact (holds.shown id d ⟨entry, earlier, progettoId, docs, listing, asked, listed⟩).later keeps

end

/-- Every assignee of a stored task whose project exists takes part in the project,
or has left it. -/
theorem assignees_take_part_or_have_left {history : Storia} {final : Store}
    (sequence : Sequence network TeamCall.process TraPartecipanti Store.empty history final)
    {id progettoId user : String} {d : Document} (found : final.get .todo id = some d)
    (belongs : d "progetto" = some (.string progettoId)) (assigned : .string user ∈ d.assegnatari)
    (stored : final.get .progetti progettoId ≠ none) :
    final.partecipa progettoId user ∨ ∃ entry ∈ history,
      entry.call = .suProgetto (.membro (.abbandona (some user) progettoId)) ∧
        ⟨opAbbandona user progettoId, .ok ()⟩ ∈ entry.exchanges := by
  have proper : TuttiBenAssegnati history final := by
    refine sequence.invariant ?_ ?_
    · intro history mid call exchanges out final holds allowed run
      obtain ⟨keeps, todos⟩ := stored_step holds allowed run
      exact ⟨todos, shown_step holds run keeps⟩
    · refine ⟨fun id d found => ?_, fun id d shown => ?_⟩
      · cases found
      · obtain ⟨entry, member, -⟩ := shown
        cases member
  obtain ⟨other, field, -, legitimate⟩ := proper.stored id d found
  cases belongs.symm.trans field
  exact legitimate user assigned stored

/-! ## An assignee who has left -/

def brunoSiUnisce : TeamCall := .suProgetto (.membro (.unisciti "bruno" "1a2b3c4d"))

theorem assignees_take_part_or_have_left_anna : ∃ history final,
    Sequence network TeamCall.process TraPartecipanti Store.empty history final ∧
    ∃ d, final.get .todo "t" = some d ∧ (final.partecipa "p" "anna" ∨ ∃ entry ∈ history,
      entry.call = annaAbbandona ∧ ⟨opAbbandona "anna" "p", .ok ()⟩ ∈ entry.exchanges) := by
  have empty : Sequence network TeamCall.process TraPartecipanti Store.empty
    [] Store.empty := .start
  have created := empty.alone creaTesi [.inr "p", .inr ""] ⟨"anna", rfl⟩ rfl
  have joined := created.alone brunoSiUnisce [.inr "", .inr "", .inr ""] trivial rfl
  have added := joined.alone creaCapitolo [.inr "t"] ⟨_, rfl, List.mem_cons_self⟩ rfl
  have left := added.alone annaAbbandona [.inr "", .inr "", .inr "", .inr ""] trivial rfl
  have legitimate := assignees_take_part_or_have_left left
    (show Store.get _ .todo "t" = some _ from rfl)
    (show _ = some (Value.string "p") from rfl)
      (show Item.string "anna" ∈ _ from List.mem_cons_self)
    (Option.some_ne_none _)
  exact ⟨_, _, left, _, rfl, legitimate⟩

/-- Anna has left the project, bruno has not, and the task is still anna's. -/
theorem anna_still_assigned : ∃ history final,
    Sequence service TeamCall.process TraPartecipanti Store.empty history final ∧
    ∃ d, final.get .todo "t" = some d ∧ d "progetto" = some (.string "p") ∧
    .string "anna" ∈ d.assegnatari ∧
      final.get .progetti "p" ≠ none ∧ ¬ final.partecipa "p" "anna" := by
  have empty : Sequence service TeamCall.process TraPartecipanti Store.empty
    [] Store.empty := .start
  have created := empty.alone creaTesi ["p", ""] ⟨"anna", rfl⟩ rfl
  have joined := created.alone brunoSiUnisce ["", "", ""] trivial rfl
  have added := joined.alone creaCapitolo ["t"] ⟨_, rfl, List.mem_cons_self⟩ rfl
  have left := added.alone annaAbbandona ["", "", "", ""] trivial rfl
  refine ⟨_, _, left, _, rfl, rfl, List.mem_cons_self, Option.some_ne_none _, ?_⟩
  rintro ⟨d, found, member⟩
  cases found
  have alone : Item.string "anna" ∈ [Item.string "bruno"] := member
  simp at alone

end TeamSync.Team
