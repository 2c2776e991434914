import TeamSync.Repository.TodoRepository

/-! Delegations of one task: the calls that add and remove an assignee. -/

set_option autoImplicit false

namespace TeamSync

def Document.assegnatari (d : Document) : List Item := FieldWrite.elements (d "utenti")

def Store.assegnato (s : Store) (id user : String) : Prop :=
  ∃ d, s.get .todo id = some d ∧ .string user ∈ d.assegnatari

theorem LeMieAttivita.Decodes.assegnatari {id : String} {d : Document} {a : LeMieAttivita}
    (decodes : Decodes id d a) : d.assegnatari = a.utenti.map .string :=
  Value.elements_of_asStrings decodes.utenti

namespace Tasks

open Effects

inductive Delega where
  | aggiungi (user : String)
  | rimuovi (user : String)

namespace Delega

def user : Delega → String
  | .aggiungi user => user
  | .rimuovi user => user

def process (id : String) : Delega → App Unit
  | .aggiungi user => TodoRepository.addUserToTodo id user
  | .rimuovi user => TodoRepository.removeUserFromTodo id user

/-- The assignees a call writes, from those it has read. -/
def lista : Delega → List String → List String
  | .aggiungi user, utenti => utenti ++ [user]
  | .rimuovi user, utenti => utenti.erase user

def fallita : Delega → Thrown → App Unit
  | .aggiungi _, e => .raise (.caused "Errore durante l'aggiunta dell'utente al Todo: " e)
  | .rimuovi _, e => .raise (.caused "Errore durante la rimozione dell'utente dal Todo: " e)

end Delega

def cancella (id : String) : App Unit :=
  .call (Op.delete .todo id) fun
    | .ok _ => .done ()
    | .error e => .raise (.caused "Errore durante la rimozione dell'utente dal Todo: "
        (.caused "Errore durante l'eliminazione del Todo: " e))

def concludi (id : String) (utenti : List String) : Delega → App Unit
  | .aggiungi _ => .done ()
  | .rimuovi _ => if utenti.isEmpty then cancella id else .done ()

abbrev opUtenti (id : String) (utenti : List String) : Op :=
  .update .todo id [("utenti", .value (.strings utenti))]

def scrivi (id : String) (call : Delega) (utenti : List String) : App Unit :=
  .call (opUtenti id (call.lista utenti)) fun
    | .ok _ => concludi id (call.lista utenti) call
    | .error e => call.fallita e

def valuta (id : String) (call : Delega) : Except Thrown LeMieAttivita → App Unit
  | .error e => call.fallita e
  | .ok leMieAttivita =>
    match call with
    | .aggiungi _ => scrivi id call leMieAttivita.utenti
    | .rimuovi user =>
      if user ∈ leMieAttivita.utenti then scrivi id call leMieAttivita.utenti
      else call.fallita (.exception "Utente non trovato nella lista")

def carica (id : String) (call : Delega) : App Unit :=
  .call (Op.get .todo id) fun
    | .ok doc => valuta id call (LeMieAttivita.fromFirestore id doc)
    | .error e => call.fallita e

def rimozione (body : App Unit) : App Unit :=
  body.rescue fun e => .raise (.caused "Errore durante la rimozione dell'utente dal Todo: " e)

theorem rimozione_cancella (id : String) : rimozione (TodoRepository.deleteTodo id) = cancella id :=
  congrArg (Process.call _) (funext fun reply => by cases reply <;> rfl)

theorem rimozione_scrivi (id user : String) (utenti : List String) :
    rimozione ((update .todo id [("utenti", .value (.strings (utenti.erase user)))]).bind fun _ =>
      if (utenti.erase user).isEmpty then TodoRepository.deleteTodo id else .done ()) =
    scrivi id (.rimuovi user) utenti := by
  refine congrArg (Process.call _) (funext fun reply => ?_)
  cases reply with
  | error e => rfl
  | ok _ =>
    simp only [Process.ofExcept_ok, Process.bind_done, Delega.lista, concludi]
    by_cases last : (utenti.erase user).isEmpty
    · simp only [last, if_true]
      exact rimozione_cancella id
    · simp only [last]
      rfl

theorem process_eq_carica (id : String) (call : Delega) : call.process id = carica id call := by
  cases call with
  | aggiungi user =>
    refine congrArg (Process.call _) (funext fun reply => ?_)
    cases reply with
    | error e => rfl
    | ok doc =>
      simp only [Process.ofExcept_ok, Process.bind_done]
      cases LeMieAttivita.fromFirestore id doc with
      | error e => rfl
      | ok a => exact congrArg (Process.call _) (funext fun reply => by cases reply <;> rfl)
  | rimuovi user =>
    refine congrArg (Process.call _) (funext fun reply => ?_)
    cases reply with
    | error e => rfl
    | ok doc =>
      simp only [Process.ofExcept_ok, Process.bind_done]
      cases LeMieAttivita.fromFirestore id doc with
      | error e => rfl
      | ok a =>
        simp only [valuta, Process.ofExcept_ok, Process.bind_eq_bind, Process.bind_done]
        split
        · exact rimozione_scrivi id user a.utenti
        · rfl

/-! ## Steps -/

inductive Delega.At (id : String) (call : Delega) : App Unit → Prop where
  | carica : At id call (carica id call)
  | scrivi {utenti : List String} : At id call (scrivi id call utenti)
  | cancella {user : String} (removes : call = .rimuovi user) : At id call (cancella id)
  | ended {p : App Unit} (ended : p.Ended) : At id call p

def Rifiutata (id : String) (call : Delega) (s : Store) : Prop :=
  ∀ d a, s.get .todo id = some d → LeMieAttivita.Decodes id d a → ∃ user, call = .rimuovi user ∧
    user ∉ a.utenti

inductive Delega.Moved (id : String) (call : Delega) (s : Store) (p : App Unit)
    (x : Exchange firestore Thrown) (p' : App Unit) (s' : Store) : Prop where
  | letta {d : Document} {a : LeMieAttivita} (point : p = carica id call)
      (found : s.get .todo id = some d)
      (decodes : LeMieAttivita.Decodes id d a) (exchange : x = ⟨.get .todo id, .ok (some d)⟩)
      (next : p' = Tasks.scrivi id call a.utenti) (store : s' = s)
  | rifiutata {e : Thrown} (point : p = carica id call ∨ ∃ utenti, p = Tasks.scrivi id call utenti)
      (refused : Rifiutata id call s) (next : p' = call.fallita e) (store : s' = s)
  | scritta {utenti : List String} {d : Document} (point : p = Tasks.scrivi id call utenti)
      (found : s.get .todo id = some d) (next : p' = concludi id (call.lista utenti) call)
      (store : s' = s.put .todo id (d.writes [("utenti", .value (.strings (call.lista utenti)))]))
  | cancellata {user : String} (removes : call = .rimuovi user) (point : p = Tasks.cancella id)
      (next : p' = .done ()) (store : s' = s.erase .todo id)

theorem ended_fallita (call : Delega) (e : Thrown) : (call.fallita e).Ended := by
  cases call <;> trivial

theorem at_concludi (id : String) (utenti : List String) (call : Delega) :
    call.At id (concludi id utenti call) := by
  cases call with
  | aggiungi user => exact .ended trivial
  | rimuovi user =>
    simp only [concludi]
    split
    · exact .cancella rfl
    · exact .ended trivial

theorem Delega.At.moved {id : String} {call : Delega} {p : App Unit} {op : Op}
    {next : Reply firestore Thrown op → App Unit} {s final : Store}
    {reply : Reply firestore Thrown op}
    {newId : String} (point : call.At id p) (head : p = .call op next)
    (answered : exec newId op s = some (reply, final)) :
    call.At id (next reply) ∧ call.Moved id s p ⟨op, reply⟩ (next reply) final := by
  cases point with
  | carica =>
    cases head
    cases answered
    cases read : LeMieAttivita.fromFirestore id (s.get .todo id) with
    | error e =>
      -- no task can be read, so no call could change it
      have refused : Rifiutata id call s := by
        intro d a found decodes
        rw [LeMieAttivita.fromFirestore_eq_ok.mpr ⟨d, found, decodes⟩] at read
        cases read
      simp only [read, valuta]
      exact ⟨.ended (ended_fallita call e), .rifiutata (.inl rfl) refused rfl rfl⟩
    | ok a =>
      obtain ⟨d, found, decodes⟩ := LeMieAttivita.fromFirestore_eq_ok.mp read
      simp only [read, valuta]
      cases call with
      | aggiungi user => exact ⟨.scrivi, .letta rfl found decodes (by rw [found]) rfl rfl⟩
      | rimuovi user =>
        simp only
        split
        · exact ⟨.scrivi, .letta rfl found decodes (by rw [found]) rfl rfl⟩
        · next absent =>
          -- a removal of a user who is not assigned throws before it writes
          refine ⟨.ended trivial, .rifiutata (.inl rfl)
            (fun d' a' found' decodes' => ⟨user, rfl, ?_⟩) rfl rfl⟩
          rw [LeMieAttivita.fromFirestore_eq_ok.mpr ⟨d', found', decodes'⟩] at read
          cases read
          exact absent
  | scrivi =>
    cases head
    simp only [exec] at answered
    split at answered
    · next d found =>
      cases answered
      exact ⟨at_concludi id _ call, .scritta rfl found rfl rfl⟩
    · next missing =>
      cases answered
      refine ⟨.ended (ended_fallita call _),
        .rifiutata (.inr ⟨_, rfl⟩) (fun d a found => ?_) rfl rfl⟩
      cases missing.symm.trans found
  | cancella removes =>
    cases head
    cases answered
    exact ⟨.ended trivial, .cancellata removes rfl rfl rfl⟩
  | ended ended =>
    rw [head] at ended
    exact ended.elim

end Tasks
end TeamSync
