import TeamSync.Tasks.ConcurrentDelegation
import TeamSync.Tasks.Runs
import TeamSync.View.LeMieAttivitaUI

/-! An edit of a task, with other clients' calls between its read and its write. -/

set_option autoImplicit false

namespace TeamSync.Tasks

open Effects

inductive Altra where
  | completa (completato : Bool)
  | delega (call : Delega)

def Altra.process (id : String) : Altra → App Unit
  | .completa completato => TodoRepository.completeTodo id completato
  | .delega call => call.process id

def Altra.applica : Bool × List String → Altra → Bool × List String
  | (_, utenti), .completa completato => (completato, utenti)
  | (completato, utenti), .delega call => (completato, call.lista utenti)

/-- The calls run alone one after another, return normally and leave the task stored. -/
inductive Intanto (id : String) : Store → List Altra → Store → Prop where
  | nil {s : Store} : Intanto id s [] s
  | cons {s mid final : Store} {call : Altra} {rest : List Altra}
      {calls : List (Exchange firestore Thrown)} :
      Runs network (call.process id) s calls (.ok ()) mid → mid.get .todo id ≠ none →
      Intanto id mid rest final → Intanto id s (call :: rest) final

section
variable {id : String} {s mid final : Store} {calls : List (Exchange firestore Thrown)}

theorem applica_step {call : Altra} {d : Document} {a : LeMieAttivita}
    (found : s.get .todo id = some d)
    (decodes : LeMieAttivita.Decodes id d a)
    (run : Runs network (call.process id) s calls (.ok ()) mid)
    (stored : mid.get .todo id ≠ none) :
    ∃ d' a', mid.get .todo id = some d' ∧ LeMieAttivita.Decodes id d' a' ∧
      (a'.completato, a'.utenti) = Altra.applica (a.completato, a.utenti) call := by
  cases call with
  | completa completato =>
    rcases runs_completeTodo run with ⟨⟨_, failed⟩, -⟩ | ⟨d', found', rfl⟩
    · cases failed
    · cases found.symm.trans found'
      exact ⟨_, _, Store.get_put_self _ _ _ _, decodes.write_completato completato, rfl⟩
  | delega call =>
    rcases runs_delega run with ⟨⟨_, failed⟩, -⟩ | ⟨d', a', found', decodes', written⟩
    · cases failed
    · cases found.symm.trans found'
      cases decodes.unique decodes'
      rcases written with rfl | rfl
      · exact ⟨_, _, Store.get_put_self _ _ _ _, decodes.write_utenti _, rfl⟩
      -- the last assignee is removed, and the task with him
      · rw [Store.get_erase_self] at stored
        exact absurd rfl stored

theorem applica_run {others : List Altra} {d : Document} {a : LeMieAttivita}
    (meanwhile : Intanto id s others mid)
    (found : s.get .todo id = some d) (decodes : LeMieAttivita.Decodes id d a) :
    ∃ d' a', mid.get .todo id = some d' ∧ LeMieAttivita.Decodes id d' a' ∧
      (a'.completato, a'.utenti) = others.foldl Altra.applica (a.completato, a.utenti) := by
  induction meanwhile generalizing d a with
  | nil => exact ⟨d, a, found, decodes, rfl⟩
  | cons run stored _ ih =>
    obtain ⟨d₁, a₁, found₁, decodes₁, same⟩ := applica_step found decodes run stored
    obtain ⟨d₂, a₂, found₂, decodes₂, rest⟩ := ih found₁ decodes₁
    exact ⟨d₂, a₂, found₂, decodes₂, by rw [rest, same, List.foldl_cons]⟩

/-- A task that a client is shown is stored as shown. -/
theorem stored_of_mem {progettoId : String} {items : List LeMieAttivita} {a : LeMieAttivita}
    (run : Runs network (TodoRepository.getAttivitaByProgettoId progettoId) s calls
      (.ok items) final)
    (shown : a ∈ items) :
    ∃ id d, s.get .todo id = some d ∧ LeMieAttivita.Decodes id d a := by
  obtain ⟨choice, reply, mid, rest, answered, after, -⟩ := runs_call_iff.mp run
  cases network_of_not_isWrite rfl answered
  cases reply with
  | error e =>
    cases (runs_done_iff.mp after).2.1
    cases shown
  | ok docs =>
    -- a document that cannot be read makes the whole list empty
    change Runs network ((Process.ofExcept
      (docs.mapM fun doc => LeMieAttivita.fromFirestore doc.1 (some doc.2))).rescue fun _ =>
        .done []) _ _ _ _ at after
    cases read : docs.mapM fun doc => LeMieAttivita.fromFirestore doc.1 (some doc.2) with
    | error e =>
      rw [read] at after
      cases (runs_done_iff.mp after).2.1
      cases shown
    | ok items' =>
      rw [read] at after
      cases (runs_done_iff.mp after).2.1
      obtain ⟨⟨key, d⟩, listed, decoded⟩ := of_mem_mapM read shown
      obtain ⟨_, same, decodes⟩ := LeMieAttivita.fromFirestore_eq_ok.mp decoded
      cases same
      exact ⟨key, d, network_query answered listed, decodes⟩

theorem quiet_getAttivitaByProgettoId (progettoId : String) :
    Quiet (TodoRepository.getAttivitaByProgettoId progettoId) := quiet_lista _ _ _

theorem stored_of_listed {progettoId : String} {items : List LeMieAttivita} {a : LeMieAttivita}
    (run : Runs network (TodoRepository.getAttivitaByProgettoId progettoId) s calls
      (.ok items) final)
    (shown : a ∈ items) (named : a.id = some id) :
    final = s ∧ ∃ d, s.get .todo id = some d ∧ LeMieAttivita.Decodes id d a := by
  obtain ⟨key, d, found, decodes⟩ := stored_of_mem run shown
  cases named.symm.trans decodes.id
  exact ⟨runs_quiet (quiet_getAttivitaByProgettoId progettoId) run, d, found, decodes⟩

end

/-- An edit of a task as it was listed keeps what others did to it meanwhile just
when their calls, applied to the completion flag and the assignees that were
listed, lead back to these. -/
theorem edit_keeps_iff {progettoId id : String} {zone : Zone} {oggi now now' : DateTime}
    {dialog : EditTodoDialog}
    {items : List LeMieAttivita} {others : List Altra} {s listed mid final : Store}
    {reads writes : List (Exchange firestore Thrown)}
    (read : Runs network (TodoRepository.getAttivitaByProgettoId progettoId) s reads
      (.ok items) listed)
    (shown : dialog.todoItem ∈ items) (named : dialog.todoItem.id = some id)
    (meanwhile : Intanto id listed others mid)
    (edit : Runs network (LeMieAttivitaUI.handleModificaTask zone oggi now' (dialog.onSave now))
      mid writes (.ok none) final) :
    ∃ before after a b, mid.get .todo id = some before ∧ LeMieAttivita.Decodes id before a ∧
      final.get .todo id = some after ∧ LeMieAttivita.Decodes id after b ∧
      (b.completato = a.completato ∧ b.utenti = a.utenti ↔
        others.foldl Altra.applica (dialog.todoItem.completato, dialog.todoItem.utenti) =
          (dialog.todoItem.completato, dialog.todoItem.utenti)) := by
  obtain ⟨rfl, d, found, decodes⟩ := stored_of_listed read shown named
  obtain ⟨before, a, found', decodes', applied⟩ := applica_run meanwhile found decodes
  have target : (dialog.onSave now).id = some id := named
  unfold LeMieAttivitaUI.handleModificaTask at edit
  rw [target] at edit
  rcases runs_viewModel_updateTodo edit with ⟨-, failed⟩ | ⟨-, rfl⟩
  · exact absurd rfl failed
  -- both fields are written as they were listed
  refine ⟨before, _, a, _, found', decodes', Store.get_put_self _ _ _ _,
    LeMieAttivita.decodes_toMap id _, ?_⟩
  rw [← applied, Prod.mk.injEq]
  exact and_congr eq_comm eq_comm

/-! ## A call between the list and the edit -/

def dialogDiBruno : EditTodoDialog :=
  { EditTodoDialog.apri attivitaDiAnna ⟨2 * microsPerDay, false⟩ ⟨0, false⟩ with
    titolo := "Capitolo uno" }

theorem dialogDiBruno_raggiunto : EditTodoDialog.Raggiunto 0
    (.apri attivitaDiAnna ⟨2 * microsPerDay, false⟩ ⟨0, false⟩) dialogDiBruno :=
  .single ⟨⟨0, false⟩, .compila "Capitolo uno" "Prima stesura" .media⟩

theorem elenco_storeDiAnna : ∃ reads,
    Runs network (TodoRepository.getAttivitaByProgettoId "p") storeDiAnna reads
      (.ok [attivitaDiAnna]) storeDiAnna :=
  ⟨_, .of_runAlone [.inr ""] rfl⟩

def completata (completato : Bool) : Store :=
  storeDiAnna.put .todo "t"
    (attivitaDiAnna.toMap.writes [("completato", .value (.bool completato))])

theorem intanto_completata (completato : Bool) :
    Intanto "t" storeDiAnna [.completa completato] (completata completato) := by
  have stored : (completata completato).get .todo "t" ≠ none := by
    rw [completata, Store.get_put_self]
    exact Option.some_ne_none _
  exact .cons (.of_runAlone [.inr ""] rfl) stored .nil

theorem edit_completata (completato : Bool) : ∃ writes final, Runs network
    (LeMieAttivitaUI.handleModificaTask 0 ⟨0, false⟩ ⟨0, false⟩ (dialogDiBruno.onSave ⟨0, false⟩))
    (completata completato) writes (.ok none) final :=
  ⟨_, _, .of_runAlone [.inr ""] rfl⟩

/-- A call that leaves the flag as it was listed is kept. -/
theorem edit_keeps_iff_riaperta : ∃ writes final before after a b,
    Runs network (LeMieAttivitaUI.handleModificaTask 0 ⟨0, false⟩ ⟨0, false⟩
      (dialogDiBruno.onSave ⟨0, false⟩)) (completata false) writes (.ok none) final ∧
    (completata false).get .todo "t" = some before ∧ LeMieAttivita.Decodes "t" before a ∧
    final.get .todo "t" = some after ∧ LeMieAttivita.Decodes "t" after b ∧
    b.completato = a.completato ∧ b.utenti = a.utenti := by
  obtain ⟨reads, read⟩ := elenco_storeDiAnna
  obtain ⟨writes, final, edit⟩ := edit_completata false
  obtain ⟨before, after, a, b, found, decodes, found', decodes', kept⟩ :=
    edit_keeps_iff read (List.mem_singleton.mpr rfl) rfl (intanto_completata false) edit
  exact ⟨writes, final, before, after, a, b, edit, found, decodes, found', decodes', kept.mpr rfl⟩

/-- Anna completes the task after bruno has listed it, and bruno's new title reopens it. -/
theorem completion_undone : ∃ reads writes final before after a b,
    Runs network (TodoRepository.getAttivitaByProgettoId "p") storeDiAnna reads
      (.ok [attivitaDiAnna]) storeDiAnna ∧
    Intanto "t" storeDiAnna [.completa true] (completata true) ∧
    EditTodoDialog.Raggiunto 0 (.apri attivitaDiAnna ⟨2 * microsPerDay, false⟩ ⟨0, false⟩)
      dialogDiBruno ∧
    Runs network (LeMieAttivitaUI.handleModificaTask 0 ⟨0, false⟩ ⟨0, false⟩
      (dialogDiBruno.onSave ⟨0, false⟩)) (completata true) writes (.ok none) final ∧
    (completata true).get .todo "t" = some before ∧ LeMieAttivita.Decodes "t" before a ∧
    a.completato = true ∧
    final.get .todo "t" = some after ∧ LeMieAttivita.Decodes "t" after b ∧
    b.completato = false := by
  obtain ⟨reads, read⟩ := elenco_storeDiAnna
  refine ⟨reads, _, _, _, _, _, _, read, intanto_completata true, dialogDiBruno_raggiunto,
    .of_runAlone [.inr ""] rfl, Store.get_put_self _ _ _ _, attivitaDiAnna_decodes.write_completato
      true, rfl,
    Store.get_put_self _ _ _ _, LeMieAttivita.decodes_toMap "t" _, rfl⟩

end TeamSync.Tasks
