import TeamSync.Tasks.Delegation
import TeamSync.ViewModel.LeMieAttivitaViewModel

/-! What complete runs of the calls on tasks leave in the database, on a network. -/

set_option autoImplicit false

namespace TeamSync

open Effects

section
variable {A : Type} {s final : Store} {calls : List (Exchange firestore Thrown)}
    {out : Except Thrown A}

abbrev Quiet (p : App A) : Prop := p.OnlyCalls fun op : Op => op.isWrite = false

theorem quiet_lista (c : CollectionName) (filters : List Filter)
    (decode : String × Document → Except Thrown A) :
    Quiet (((query c filters).bind fun docs => .ofExcept (docs.mapM decode)).rescue
      fun _ => .done []) :=
  .rescue (.bind (.perform rfl) fun _ => .ofExcept _) fun _ => trivial

theorem runs_quiet {p : App A} (quiet : Quiet p) (run : Runs network p s calls out final) :
    final = s := by
  induction run with
  | done => rfl
  | raise => rfl
  | call answered _ ih =>
    rw [ih (quiet.2 _)]
    exact network_of_not_isWrite quiet.1 answered

theorem runs_quiet_query {p : App A} {c : CollectionName} {filters : List Filter}
    {docs : List (String × Document)} (quiet : Quiet p) (run : Runs network p s calls out final)
    (asked : ⟨.query c filters, .ok docs⟩ ∈ calls) {id : String} {d : Document}
    (listed : (id, d) ∈ docs) :
    s.get c id = some d := by
  induction run with
  | done => cases asked
  | raise => cases asked
  | call answered _ ih =>
    have same := network_of_not_isWrite quiet.1 answered
    subst same
    rcases List.mem_cons.mp asked with first | later
    · cases first
      exact network_query answered listed
    · exact ih (quiet.2 _) later

theorem runs_quiet_get {p : App A} {c : CollectionName} {id : String} {found : Option Document}
    (quiet : Quiet p)
    (run : Runs network p s calls out final) (asked : ⟨.get c id, .ok found⟩ ∈ calls) :
    s.get c id = found := by
  induction run with
  | done => cases asked
  | raise => cases asked
  | call answered _ ih =>
    have same := network_of_not_isWrite quiet.1 answered
    subst same
    rcases List.mem_cons.mp asked with first | later
    · cases first
      exact ((network_get answered).2 found rfl).symm
    · exact ih (quiet.2 _) later

theorem runs_first {op : Op} {next : Reply firestore Thrown op → App A}
    (quiet : ∀ reply, Quiet (next reply)) (run : Runs network (.call op next) s calls out final) :
    ∃ choice reply rest, network.exec choice op s = some (reply, final) ∧
      Runs network (next reply) final rest out final ∧ calls = ⟨op, reply⟩ :: rest := by
  obtain ⟨choice, reply, mid, rest, answered, after, same⟩ := runs_call_iff.mp run
  have unchanged := runs_quiet (quiet reply) after
  subst unchanged
  exact ⟨choice, reply, rest, answered, after, same⟩

end

namespace Tasks

variable {s final : Store} {calls : List (Exchange firestore Thrown)} {id : String}

theorem runs_completeTodo {completato : Bool} {out : Except Thrown Unit}
    (run : Runs network (TodoRepository.completeTodo id completato) s calls out final) :
    (∃ e, out = .error e) ∧ final = s ∨ ∃ d, s.get .todo id = some d ∧
      final = s.put .todo id (d.writes [("completato", .value (.bool completato))]) := by
  obtain ⟨choice, reply, rest, answered, after, -⟩ :=
    runs_first (fun reply => by cases reply <;> trivial) run
  rcases network_update answered with ⟨e, rfl, same⟩ | ⟨d, found, -, same⟩
  · exact .inl ⟨⟨_, (runs_raise_iff.mp after).2.1⟩, same⟩
  · exact .inr ⟨d, found, same⟩

theorem runs_deleteTodo {out : Except Thrown Unit}
    (run : Runs network (TodoRepository.deleteTodo id) s calls out final) :
    final = s ∨ final = s.erase .todo id := by
  obtain ⟨choice, reply, rest, answered, -, -⟩ :=
    runs_first (fun reply => by cases reply <;> trivial) run
  rcases network_delete answered with ⟨-, -, same⟩ | ⟨-, same⟩
  · exact .inl same
  · exact .inr same

def Scritta (id : String) (utenti : List String) (s : Store) (d : Document)
    (final : Store) : Prop :=
  final = s.put .todo id (d.writes [("utenti", .value (.strings utenti))]) ∨
    final = (s.put .todo id (d.writes [("utenti", .value (.strings utenti))])).erase .todo id

abbrev NessunaFallita (id : String) (calls : List (Exchange firestore Thrown)) : Prop :=
  ∀ e, ⟨.delete .todo id, .error e⟩ ∉ calls

theorem NessunaFallita.cons {x : Exchange firestore Thrown}
    (unrelated : ∀ e, x ≠ ⟨.delete .todo id, .error e⟩) (rest : NessunaFallita id calls) :
    NessunaFallita id (x :: calls) := fun e member =>
  (List.mem_cons.mp member).elim (fun same => unrelated e same.symm) (rest e)

/-- The ways in which a delegation ends: it is refused, or it writes the assignees;
without any, it goes on to delete the task, and that may fail. -/
inductive Esito (id : String) (call : Delega) (s : Store)
    (calls : List (Exchange firestore Thrown)) : Except Thrown Unit → Store → Prop where
  | rifiutata {e : Thrown} (unfailed : NessunaFallita id calls) : Esito id call s calls (.error e) s
  | scritta {d : Document} {a : LeMieAttivita} (found : s.get .todo id = some d)
      (decodes : LeMieAttivita.Decodes id d a)
      (assigned : ∀ user, call = .rimuovi user → user ∈ a.utenti)
      (some : call.lista a.utenti ≠ []) (unfailed : NessunaFallita id calls) :
      Esito id call s calls (.ok ())
        (s.put .todo id (d.writes [("utenti", .value (.strings (call.lista a.utenti)))]))
  | cancellata {d : Document} {a : LeMieAttivita} (found : s.get .todo id = some d)
      (decodes : LeMieAttivita.Decodes id d a)
      (assigned : ∀ user, call = .rimuovi user → user ∈ a.utenti)
      (none : call.lista a.utenti = []) (unfailed : NessunaFallita id calls) :
      Esito id call s calls (.ok ())
        ((s.put .todo id (d.writes [("utenti", .value (.strings (call.lista a.utenti)))])).erase
          .todo id)
  | interrotta {d : Document} {a : LeMieAttivita} {e e' : Thrown}
      (found : s.get .todo id = some d) (decodes : LeMieAttivita.Decodes id d a)
      (assigned : ∀ user, call = .rimuovi user → user ∈ a.utenti)
      (none : call.lista a.utenti = []) (failed : ⟨.delete .todo id, .error e⟩ ∈ calls) :
      Esito id call s calls (.error e')
        (s.put .todo id (d.writes [("utenti", .value (.strings (call.lista a.utenti)))]))

theorem esito_fallita {call : Delega} {e : Thrown} {out : Except Thrown Unit}
    (run : Runs network (call.fallita e) s calls out final) : Esito id call s calls out final := by
  cases call with
  | aggiungi user | rimuovi user =>
    obtain ⟨rfl, rfl, rfl⟩ := runs_raise_iff.mp run
    exact .rifiutata nofun

theorem esito_concludi {call : Delega} {d : Document} {a : LeMieAttivita} {out : Except Thrown Unit}
    (found : s.get .todo id = some d) (decodes : LeMieAttivita.Decodes id d a)
    (assigned : ∀ user, call = .rimuovi user → user ∈ a.utenti)
    (run : Runs network (concludi id (call.lista a.utenti) call)
      (s.put .todo id (d.writes [("utenti", .value (.strings (call.lista a.utenti)))])) calls out
        final) : Esito id call s calls out final := by
  cases call with
  | aggiungi user =>
    obtain ⟨rfl, rfl, rfl⟩ := runs_done_iff.mp run
    have some : a.utenti ++ [user] ≠ [] :=
      List.append_ne_nil_of_right_ne_nil _ (List.cons_ne_nil _ _)
    exact .scritta found decodes assigned some nofun
  | rimuovi user =>
    simp only [concludi] at run
    split at run
    · next empty =>
      have none := List.isEmpty_iff.mp empty
      obtain ⟨choice, reply, mid, rest, answered, after, rfl⟩ := runs_call_iff.mp run
      rcases network_delete answered with ⟨e, rfl, rfl⟩ | ⟨rfl, rfl⟩
      · obtain ⟨rfl, rfl, rfl⟩ := runs_raise_iff.mp after
        exact .interrotta found decodes assigned none List.mem_cons_self
      · obtain ⟨rfl, rfl, rfl⟩ := runs_done_iff.mp after
        refine .cancellata found decodes assigned none (.cons (fun e same => ?_) nofun)
        cases same
    · next some =>
      obtain ⟨rfl, rfl, rfl⟩ := runs_done_iff.mp run
      exact .scritta found decodes assigned (fun none => some (List.isEmpty_iff.mpr none)) nofun

theorem Esito.cons {call : Delega} {out : Except Thrown Unit} {x : Exchange firestore Thrown}
    (ended : Esito id call s calls out final)
    (unrelated : ∀ e, x ≠ ⟨.delete .todo id, .error e⟩) :
    Esito id call s (x :: calls) out final := by
  cases ended with
  | rifiutata unfailed => exact .rifiutata (.cons unrelated unfailed)
  | scritta found decodes assigned some unfailed =>
    exact .scritta found decodes assigned some (.cons unrelated unfailed)
  | cancellata found decodes assigned none unfailed =>
    exact .cancellata found decodes assigned none (.cons unrelated unfailed)
  | interrotta found decodes assigned none failed =>
    exact .interrotta found decodes assigned none (List.mem_cons_of_mem _ failed)

theorem esito_scrivi {call : Delega} {d : Document} {a : LeMieAttivita} {out : Except Thrown Unit}
    (found : s.get .todo id = some d) (decodes : LeMieAttivita.Decodes id d a)
    (assigned : ∀ user, call = .rimuovi user → user ∈ a.utenti)
    (run : Runs network (scrivi id call a.utenti) s calls out final) :
    Esito id call s calls out final := by
  obtain ⟨choice, reply, mid, rest, answered, after, rfl⟩ := runs_call_iff.mp run
  rcases network_update answered with ⟨e, rfl, rfl⟩ | ⟨d', found', rfl, rfl⟩
  · exact (esito_fallita after).cons nofun
  · cases found.symm.trans found'
    exact (esito_concludi found decodes assigned after).cons nofun

theorem runs_esito {call : Delega} {out : Except Thrown Unit}
    (run : Runs network (call.process id) s calls out final) : Esito id call s calls out final := by
  rw [process_eq_carica] at run
  obtain ⟨choice, reply, mid, rest, answered, evaluated, rfl⟩ := runs_call_iff.mp run
  obtain ⟨rfl, stored⟩ := network_get answered
  refine Esito.cons ?_ nofun
  cases reply with
  | error e => exact esito_fallita evaluated
  | ok doc =>
    cases stored doc rfl
    cases read : LeMieAttivita.fromFirestore id (mid.get .todo id) with
    | error e =>
      simp only [read, valuta] at evaluated
      exact esito_fallita evaluated
    | ok a =>
      -- the list is made from the task as it is stored
      obtain ⟨d, found, decodes⟩ := LeMieAttivita.fromFirestore_eq_ok.mp read
      simp only [read, valuta] at evaluated
      cases call with
      | aggiungi user =>
        refine esito_scrivi found decodes (fun other same => ?_) evaluated
        cases same
      | rimuovi user =>
        simp only at evaluated
        split at evaluated
        · next member =>
          refine esito_scrivi found decodes (fun other same => ?_) evaluated
          cases same
          exact member
        -- a removal of a user that it does not find is refused as well
        · exact esito_fallita evaluated

/-- A delegation that has not been refused has written the list it makes of the stored one. -/
theorem runs_delega {call : Delega} {out : Except Thrown Unit}
    (run : Runs network (call.process id) s calls out final) : (∃ e, out = .error e) ∧ final = s ∨
      ∃ d a, s.get .todo id = some d ∧ LeMieAttivita.Decodes id d a ∧
        Scritta id (call.lista a.utenti) s d final := by
  cases runs_esito run with
  | rifiutata _ => exact .inl ⟨⟨_, rfl⟩, rfl⟩
  | scritta found decodes | interrotta found decodes =>
    exact .inr ⟨_, _, found, decodes, .inl rfl⟩
  | cancellata found decodes => exact .inr ⟨_, _, found, decodes, .inr rfl⟩

theorem runs_updateTodo {now : DateTime} {titolo descrizione : String}
    {dataScadenza dataCreazione : DateTime}
    {priorita : Priorita} {progetto : String} {utenti : List String} {completato : Bool}
    {out : Except Thrown Unit}
    (run : Runs network
      (TodoRepository.updateTodo now id titolo descrizione dataScadenza dataCreazione priorita
        progetto utenti completato) s calls out final) :
    (∃ e, out = .error e) ∧ final = s ∨ out = .ok () ∧ final = s.put .todo id
      (LeMieAttivita.new now (some id) titolo descrizione dataScadenza priorita completato progetto
        utenti none (some dataCreazione)).toMap := by
  obtain ⟨choice, reply, rest, answered, after, -⟩ :=
    runs_first (fun reply => by cases reply <;> trivial) run
  rcases network_set answered with ⟨e, rfl, same⟩ | ⟨rfl, same⟩
  · exact .inl ⟨⟨_, (runs_raise_iff.mp after).2.1⟩, same⟩
  · exact .inr ⟨(runs_done_iff.mp after).2.1, same⟩

theorem runs_addTodo {now : DateTime} {titolo descrizione : String} {dataScadenza : DateTime}
    {priorita : Priorita} {completato : Bool} {utenti progetto : String} {out : Except Thrown Unit}
    (run : Runs network
      (TodoRepository.addTodo now titolo descrizione dataScadenza priorita completato utenti
        progetto) s calls out final) :
    (∃ e, out = .error e) ∧ final = s ∨ out = .ok () ∧
      ∃ newId, newId ∉ (s .todo).used ∧ final = s.put .todo newId
        (LeMieAttivita.new now none titolo descrizione dataScadenza priorita completato progetto
          [utenti] none none).toMap := by
  obtain ⟨choice, reply, rest, answered, after, -⟩ :=
    runs_first (fun reply => by cases reply <;> trivial) run
  rcases network_add answered with ⟨e, rfl, same⟩ | ⟨newId, fresh, rfl, same⟩
  · exact .inl ⟨⟨_, (runs_raise_iff.mp after).2.1⟩, same⟩
  · exact .inr ⟨(runs_done_iff.mp after).2.1, newId, fresh, same⟩

theorem answers_getAttivita {progettoId : String} {tutte : List LeMieAttivita}
    (read : ((s.trovati .todo [.isEqualTo "progetto" (.string progettoId)]).mapM fun doc =>
      LeMieAttivita.fromFirestore doc.1 (some doc.2)) = .ok tutte) :
    Answers service (TodoRepository.getAttivitaByProgettoId progettoId) s tutte := by
  refine .rescue (.bind (answers_query .todo _ s) ?_)
  rw [read]
  exact .done tutte s

/-! ## Through the view model -/

theorem runs_reported {body : App Unit} {message : String} {out : Except Thrown (Option String)}
    (run : Runs network ((body.bind fun _ => .done none).rescue fun _ => .done (some message)) s
      calls out final) :
    Runs network body s calls (.ok ()) final ∧ out = .ok none ∨
      ∃ e, Runs network body s calls (.error e) final ∧ out = .ok (some message) := by
  rcases runs_rescue_iff.mp run with ⟨a, ran, rfl⟩ | ⟨e, first, rest, mid, ran, after, rfl⟩
  · rcases runs_bind_iff.mp ran with ⟨_, -, same⟩ | ⟨_, first, rest, mid, written, after, rfl⟩
    · cases same
    · obtain ⟨rfl, same, rfl⟩ := runs_done_iff.mp after
      cases same
      rw [List.append_nil]
      exact .inl ⟨written, rfl⟩
  · obtain ⟨rfl, rfl, rfl⟩ := runs_done_iff.mp after
    rw [List.append_nil]
    rcases runs_bind_iff.mp ran with ⟨e, ran, -⟩ | ⟨_, first, rest, mid, -, after, -⟩
    · exact .inr ⟨e, ran, rfl⟩
    · cases (runs_done_iff.mp after).2.1

theorem runs_reported_refused {body : App Unit} {message shown : String}
    (run : Runs network ((body.bind fun _ => .done none).rescue fun _ => .done (some message)) s
      calls (.ok (some shown)) final) : ∃ e, Runs network body s calls (.error e) final := by
  rcases runs_reported run with ⟨-, same⟩ | ⟨e, ran, -⟩
  · cases same
  · exact ⟨e, ran⟩

theorem runs_reported_body {body : App Unit} {message : String}
    {out : Except Thrown (Option String)}
    (run : Runs network ((body.bind fun _ => .done none).rescue fun _ => .done (some message)) s
      calls out final) :
    ∃ out, Runs network body s calls out final := by
  rcases runs_reported run with ⟨ran, -⟩ | ⟨e, ran, -⟩
  · exact ⟨_, ran⟩
  · exact ⟨_, ran⟩

theorem runs_viewModel_addTodo {zone : Zone} {oggi now : DateTime} {titolo descrizione : String}
    {dataScadenza : DateTime} {completato : Bool} {proprietario progetto : String}
    {priorita : Priorita} {out : Except Thrown (Option String)}
    (run : Runs network
      (LeMieAttivitaViewModel.addTodo zone oggi now titolo descrizione dataScadenza completato
        proprietario progetto priorita) s calls out final) :
    final = s ∨ LeMieAttivitaViewModel.isDateBeforeToday zone oggi dataScadenza = false ∧
      ∃ newId, newId ∉ (s .todo).used ∧ final = s.put .todo newId
        (LeMieAttivita.new now none titolo descrizione dataScadenza priorita completato progetto
          [proprietario] none none).toMap := by
  unfold LeMieAttivitaViewModel.addTodo at run
  split at run
  · exact .inl (runs_done_iff.mp run).2.2
  split at run
  · exact .inl (runs_done_iff.mp run).2.2
  · next allowed =>
    obtain ⟨out, ran⟩ := runs_reported_body run
    rcases runs_addTodo ran with ⟨-, same⟩ | ⟨-, added⟩
    · exact .inl same
    · exact .inr ⟨by simpa using allowed, added⟩

theorem runs_viewModel_addTodo_refused {zone : Zone} {oggi now : DateTime}
    {titolo descrizione : String} {dataScadenza : DateTime} {completato : Bool}
    {proprietario progetto message : String} {priorita : Priorita}
    (run : Runs network
      (LeMieAttivitaViewModel.addTodo zone oggi now titolo descrizione dataScadenza completato
        proprietario progetto priorita) s calls (.ok (some message)) final) : final = s := by
  unfold LeMieAttivitaViewModel.addTodo at run
  split at run
  · exact (runs_done_iff.mp run).2.2
  split at run
  · exact (runs_done_iff.mp run).2.2
  · obtain ⟨e, ran⟩ := runs_reported_refused run
    rcases runs_addTodo ran with ⟨-, same⟩ | ⟨returned, -⟩
    · exact same
    · cases returned

theorem runs_viewModel_updateTodo {zone : Zone} {oggi now : DateTime} {titolo descrizione : String}
    {dataScadenza dataCreazione : DateTime} {progetto : String} {utenti : List String}
    {completato : Bool} {priorita : Priorita} {out : Except Thrown (Option String)}
    (run : Runs network
      (LeMieAttivitaViewModel.updateTodo zone oggi now id titolo descrizione dataScadenza
        dataCreazione progetto utenti completato priorita) s calls out final) :
    final = s ∧ out ≠ .ok none ∨ LeMieAttivitaViewModel.isDateBeforeToday zone oggi
      dataScadenza = false ∧
      final = s.put .todo id
        (LeMieAttivita.new now (some id) titolo descrizione dataScadenza priorita completato
          progetto utenti none (some dataCreazione)).toMap := by
  unfold LeMieAttivitaViewModel.updateTodo at run
  split at run
  · obtain ⟨-, rfl, rfl⟩ := runs_done_iff.mp run
    exact .inl ⟨rfl, by simp⟩
  split at run
  · obtain ⟨-, rfl, rfl⟩ := runs_done_iff.mp run
    exact .inl ⟨rfl, by simp⟩
  · next allowed =>
    rcases runs_reported run with ⟨ran, rfl⟩ | ⟨e, ran, rfl⟩
    · rcases runs_updateTodo ran with ⟨⟨_, same⟩, -⟩ | ⟨-, written⟩
      · cases same
      · exact .inr ⟨by simpa using allowed, written⟩
    · rcases runs_updateTodo ran with ⟨-, same⟩ | ⟨returned, -⟩
      · exact .inl ⟨same, by simp⟩
      · cases returned

theorem runs_viewModel_updateTodo_refused {zone : Zone} {oggi now : DateTime}
    {titolo descrizione : String} {dataScadenza dataCreazione : DateTime}
    {progetto message : String} {utenti : List String} {completato : Bool} {priorita : Priorita}
    (run : Runs network
      (LeMieAttivitaViewModel.updateTodo zone oggi now id titolo descrizione dataScadenza
        dataCreazione progetto utenti completato priorita) s calls (.ok (some message)) final) :
    final = s := by
  unfold LeMieAttivitaViewModel.updateTodo at run
  split at run
  · exact (runs_done_iff.mp run).2.2
  split at run
  · exact (runs_done_iff.mp run).2.2
  · obtain ⟨e, ran⟩ := runs_reported_refused run
    rcases runs_updateTodo ran with ⟨-, same⟩ | ⟨returned, -⟩
    · exact same
    · cases returned

theorem runs_updateDataScadenzaTodo {now : DateTime} {attivita : LeMieAttivita}
    {dataScadenzaProgetto : DateTime} {out : Except Thrown (Option String)}
    (named : attivita.id = some id)
    (run : Runs network
      (LeMieAttivitaViewModel.updateDataScadenzaTodo now attivita dataScadenzaProgetto) s calls out
        final) :
    final = s ∧ out ≠ .ok none ∨ final = s.put .todo id
      (LeMieAttivita.new now (some id) attivita.titolo attivita.descrizione dataScadenzaProgetto
        attivita.priorita attivita.completato attivita.progetto attivita.utenti none
          (some attivita.dataScadenza)).toMap := by
  unfold LeMieAttivitaViewModel.updateDataScadenzaTodo at run
  rw [named] at run
  rcases runs_reported run with ⟨ran, rfl⟩ | ⟨e, ran, rfl⟩
  · rcases runs_updateTodo ran with ⟨⟨_, same⟩, -⟩ | ⟨-, written⟩
    · cases same
    · exact .inr written
  · rcases runs_updateTodo ran with ⟨-, same⟩ | ⟨returned, -⟩
    · exact .inl ⟨same, by simp⟩
    · cases returned

theorem runs_viewModel_deleteTodo {out : Except Thrown (Option String)}
    (run : Runs network (LeMieAttivitaViewModel.deleteTodo id) s calls out final) :
    final = s ∨ final = s.erase .todo id := by
  obtain ⟨out, ran⟩ := runs_reported_body run
  exact runs_deleteTodo ran

theorem runs_viewModel_completeTodo {completato : Bool} {out : Except Thrown (Option String)}
    (run : Runs network (LeMieAttivitaViewModel.completeTodo id completato) s calls out final) :
    final = s ∨ ∃ d, s.get .todo id = some d ∧
      final = s.put .todo id (d.writes [("completato", .value (.bool completato))]) := by
  obtain ⟨out, ran⟩ := runs_reported_body run
  rcases runs_completeTodo ran with ⟨-, same⟩ | written
  · exact .inl same
  · exact .inr written

end Tasks
end TeamSync
