import TeamSync.Tasks.Delegation

/-! Delegations of one task that share the database. -/

set_option autoImplicit false

namespace TeamSync.Tasks

open Effects

variable {ι : Type} [DecidableEq ι]

def start (id : String) (s : Store) (calls : ι → Delega) : Config ι firestore Thrown Store Unit :=
  .start s fun i => (calls i).process id

/-- A delegation writes while the assignees it has read are still the stored ones,
and a removal deletes a task that is still without assignees. -/
def ElencoAttuale (id : String) (c : Config ι firestore Thrown Store Unit) (i : ι) : Prop :=
  (∀ data read now, (c.pool i).nextOp = some (.update .todo id data) →
    (i, ⟨.get .todo id, .ok (some read)⟩) ∈ c.trace → c.store.get .todo id = some now →
    now.assegnatari = read.assegnatari) ∧
  ∀ now, (c.pool i).nextOp = some (.delete .todo id) → c.store.get .todo id = some now →
    now.assegnatari = []

def Fatta (id : String) (p : App Unit) : Prop := p = .done () ∨ p = cancella id

def Aggiunto (id : String) (calls : ι → Delega) (pool : ι → App Unit) (user : String) : Prop :=
  ∃ i, calls i = .aggiungi user ∧ Fatta id (pool i)

def Rimosso (id : String) (calls : ι → Delega) (pool : ι → App Unit) (user : String) : Prop :=
  ∃ i, calls i = .rimuovi user ∧ Fatta id (pool i)

/-- Added, or initially assigned and not removed. -/
def Atteso (id : String) (calls : ι → Delega) (iniziali : List String) (pool : ι → App Unit)
    (user : String) : Prop :=
  Aggiunto id calls pool user ∨ user ∈ iniziali ∧ ¬ Rimosso id calls pool user

theorem fatta_concludi (id : String) (utenti : List String) (call : Delega) :
    Fatta id (concludi id utenti call) := by
  cases call with
  | aggiungi user => exact .inl rfl
  | rimuovi user =>
    simp only [concludi]
    split
    · exact .inr rfl
    · exact .inl rfl

theorem not_fatta_of_nextOp {id : String} {p : App Unit} {op : Op} (head : p.nextOp = some op)
    (differ : op ≠ .delete .todo id) : ¬ Fatta id p := by
  rintro (same | same)
  · rw [same] at head
    cases head
  · rw [same] at head
    cases head
    exact differ rfl

theorem not_fatta_fallita (id : String) (call : Delega) (e : Thrown) :
    ¬ Fatta id (call.fallita e) := by
  cases call <;> rintro (same | same) <;> cases same

section
variable {id : String} {calls : ι → Delega} {iniziali : List String}
    {before after : ι → App Unit} {i : ι}
  {user : String}

omit [DecidableEq ι] in
theorem atteso_congr (same : ∀ j, Fatta id (after j) ↔ Fatta id (before j)) :
    Atteso id calls iniziali after user ↔ Atteso id calls iniziali before user := by
  simp only [Atteso, Aggiunto, Rimosso, same]

omit [DecidableEq ι] in
theorem atteso_aggiunta {added : String} (adds : calls i = .aggiungi added)
    (done : Fatta id (after i))
    (same : ∀ j, j ≠ i → (Fatta id (after j) ↔ Fatta id (before j)))
    (pending : ¬ Fatta id (before i)) :
    Atteso id calls iniziali after user ↔ Atteso id calls iniziali before user ∨ user = added := by
  have removed : Rimosso id calls after user ↔ Rimosso id calls before user := by
    refine exists_congr fun j => and_congr_right fun removes => same j ?_
    rintro rfl
    cases adds.symm.trans removes
  have entered : Aggiunto id calls after user ↔ Aggiunto id calls before user ∨ user = added := by
    constructor
    · rintro ⟨j, adds', done'⟩
      by_cases moving : j = i
      · subst moving
        cases adds.symm.trans adds'
        exact .inr rfl
      · exact .inl ⟨j, adds', (same j moving).mp done'⟩
    · rintro (⟨j, adds', done'⟩ | rfl)
      · exact ⟨j, adds', (same j (by rintro rfl; exact pending done')).mpr done'⟩
      · exact ⟨i, adds, done⟩
  rw [Atteso, Atteso, removed, entered]
  clear removed entered
  tauto

omit [DecidableEq ι] in
theorem atteso_rimossa {gone : String} (removes : calls i = .rimuovi gone)
    (done : Fatta id (after i)) (distinct : ∀ i j, (calls i).user = (calls j).user → i = j)
    (same : ∀ j, j ≠ i → (Fatta id (after j) ↔ Fatta id (before j)))
    (pending : ¬ Fatta id (before i)) :
    Atteso id calls iniziali after user ↔ Atteso id calls iniziali before user ∧ user ≠ gone := by
  have entered : Aggiunto id calls after user ↔ Aggiunto id calls before user ∧ user ≠ gone := by
    constructor
    · rintro ⟨j, adds, done'⟩
      have other : j ≠ i := by
        rintro rfl
        cases removes.symm.trans adds
      refine ⟨⟨j, adds, (same j other).mp done'⟩, ?_⟩
      rintro rfl
      exact other (distinct j i (by rw [adds, removes]; rfl))
    · rintro ⟨⟨j, adds, done'⟩, -⟩
      exact ⟨j, adds, (same j (by rintro rfl; exact pending done')).mpr done'⟩
  have removed : Rimosso id calls after user ↔ Rimosso id calls before user ∨ user = gone := by
    constructor
    · rintro ⟨j, removes', done'⟩
      by_cases moving : j = i
      · subst moving
        cases removes.symm.trans removes'
        exact .inr rfl
      · exact .inl ⟨j, removes', (same j moving).mp done'⟩
    · rintro (⟨j, removes', done'⟩ | rfl)
      · exact ⟨j, removes', (same j (by rintro rfl; exact pending done')).mpr done'⟩
      · exact ⟨i, removes, done⟩
  rw [Atteso, Atteso, removed, entered]
  clear removed entered
  tauto

end

/-! ## The invariant -/

/-- The calls are about distinct users, and those added are not assigned yet. -/
structure Delegabili (calls : ι → Delega) (iniziali : List String) : Prop where
  nodup : iniziali.Nodup
  distinct : ∀ i j, (calls i).user = (calls j).user → i = j
  fresh : ∀ i user, calls i = .aggiungi user → user ∉ iniziali

structure AssegnatariAttesi (id : String) (calls : ι → Delega) (iniziali : List String)
    (c : Config ι firestore Thrown Store Unit) : Prop where
  stored : ∀ d, c.store.get .todo id = some d → ∃ a, LeMieAttivita.Decodes id d a ∧ a.utenti.Nodup ∧
    ∀ user, user ∈ a.utenti ↔ Atteso id calls iniziali c.pool user
  missing : c.store.get .todo id = none → ∀ user, ¬ Atteso id calls iniziali c.pool user
  -- a task is without assignees because a removal is about to delete it, or from the start
  empty : ∀ d, c.store.get .todo id = some d → d.assegnatari = [] → (∃ i, c.pool i = cancella id) ∨
    iniziali = [] ∧ ∀ user, ¬ Aggiunto id calls c.pool user
  refused : ∀ i user, calls i = .aggiungi user → (c.pool i).Ended → ¬ Fatta id (c.pool i) →
    c.store.get .todo id = none

section
variable {id : String} {s : Store} {calls : ι → Delega} {iniziali : List String} {i : ι}
    {choice : service.Choice}
  {guard : Config ι firestore Thrown Store Unit → ι → Prop}
  {c final : Config ι firestore Thrown Store Unit}

theorem at_of_reaches (reach : Reaches service guard (start id s calls) c) (i : ι) :
    (calls i).At id (c.pool i) := by
  induction reach with
  | refl =>
    change (calls i).At id ((calls i).process id)
    rw [process_eq_carica]
    exact .carica
  | @step mid final j choice _ _ stepped ih =>
    obtain ⟨op, next, reply, head, answered, pool, -⟩ := Config.step_cases stepped
    rw [pool]
    by_cases same : i = j
    · subst same
      rw [Function.update_self]
      exact (ih.moved head answered).1
    · rw [Function.update_of_ne same]
      exact ih

theorem step_moved (reach : Reaches service guard (start id s calls) c)
    (stepped : c.step service i choice = some final) :
    ∃ x p', final.pool = Function.update c.pool i p' ∧
      final.trace = (i, x) :: c.trace ∧ (calls i).Moved id c.store (c.pool i) x p' final.store := by
  obtain ⟨op, next, reply, head, answered, pool, trace⟩ := Config.step_cases stepped
  exact ⟨⟨op, reply⟩, _, pool, trace, ((at_of_reaches reach i).moved head answered).2⟩

omit [DecidableEq ι] in
theorem utenti_eq_of_assegnatari {d d' : Document} {a a' : LeMieAttivita}
    (decodes : LeMieAttivita.Decodes id d a) (decodes' : LeMieAttivita.Decodes id d' a')
    (same : d.assegnatari = d'.assegnatari) : a.utenti = a'.utenti := by
  rw [decodes.assegnatari, decodes'.assegnatari] at same
  exact List.map_injective_iff.mpr (fun _ _ same => by cases same; rfl) same

theorem nextOp_fallita (call : Delega) (e : Thrown) : (call.fallita e).nextOp = none := by
  cases call <;> rfl

theorem nextOp_concludi {utenti : List String} {call : Delega} {op : Op}
    (head : (concludi id utenti call).nextOp = some op) : op = .delete .todo id := by
  cases call with
  | aggiungi user => cases head
  | rimuovi user =>
    simp only [concludi] at head
    split at head
    · cases head
      rfl
    · cases head

theorem read_of_reaches (reach : Reaches service guard (start id s calls) c) (i : ι)
    (data : List (String × FieldWrite))
    (head : (c.pool i).nextOp = some (.update .todo id data)) : ∃ d a,
    (i, ⟨.get .todo id, .ok (some d)⟩) ∈ c.trace ∧ LeMieAttivita.Decodes id d a ∧
      c.pool i = scrivi id (calls i) a.utenti := by
  induction reach with
  | refl =>
    change ((calls i).process id).nextOp = _ at head
    rw [process_eq_carica] at head
    cases head
  | @step mid final j choice before _ stepped ih =>
    obtain ⟨x, p', pool, trace, moved⟩ := step_moved before stepped
    rw [pool] at head ⊢
    rw [trace]
    by_cases same : i = j
    · subst same
      rw [Function.update_self] at head ⊢
      cases moved with
      | letta _ _ decodes exchange next =>
        exact ⟨_, _, exchange ▸ List.mem_cons_self, decodes, next⟩
      | rifiutata _ _ next =>
        rw [next, nextOp_fallita] at head
        cases head
      | scritta _ _ next =>
        rw [next] at head
        cases nextOp_concludi head
      | cancellata _ _ next =>
        rw [next] at head
        cases head
    · rw [Function.update_of_ne same] at head ⊢
      obtain ⟨d, a, member, rest⟩ := ih head
      exact ⟨d, a, List.mem_cons_of_mem _ member, rest⟩

theorem AssegnatariAttesi.quiet {p' : App Unit} (holds : AssegnatariAttesi id calls iniziali c)
    (pool : final.pool = Function.update c.pool i p') (store : final.store = c.store)
    (pending : ¬ Fatta id (c.pool i)) (still : ¬ Fatta id p')
    (refused : ∀ user, calls i = .aggiungi user → p'.Ended → c.store.get .todo id = none) :
    AssegnatariAttesi id calls iniziali final := by
  have fatte : ∀ j, Fatta id (final.pool j) ↔ Fatta id (c.pool j) := by
    intro j
    rw [pool]
    by_cases same : j = i
    · subst same
      rw [Function.update_self]
      exact iff_of_false still pending
    · rw [Function.update_of_ne same]
  refine ⟨fun d found => ?_, fun missing user => ?_, fun d found empty => ?_,
    fun j user adds ended unfinished => ?_⟩
  · simp only [atteso_congr fatte]
    exact holds.stored d (store ▸ found)
  · rw [atteso_congr fatte]
    exact holds.missing (store ▸ missing) user
  · rcases holds.empty d (store ▸ found) empty with ⟨j, deleting⟩ | ⟨none, unadded⟩
    · refine .inl ⟨j, ?_⟩
      rw [pool, Function.update_of_ne]
      · exact deleting
      · rintro rfl
        exact pending (.inr deleting)
    · refine .inr ⟨none, fun user => ?_⟩
      simp only [Aggiunto, fatte]
      exact unadded user
  · rw [store]
    rw [pool] at ended unfinished
    by_cases same : j = i
    · subst same
      rw [Function.update_self] at ended
      exact refused user adds ended
    · rw [Function.update_of_ne same] at ended unfinished
      exact holds.refused j user adds ended unfinished

omit [DecidableEq ι] in
theorem mem_lista {before after : ι → App Unit} {utenti : List String}
    (given : Delegabili calls iniziali)
    (nodup : utenti.Nodup) (members : ∀ user, user ∈ utenti ↔ Atteso id calls iniziali before user)
    (done : Fatta id (after i)) (same : ∀ j, j ≠ i → (Fatta id (after j) ↔ Fatta id (before j)))
    (pending : ¬ Fatta id (before i)) :
    ((calls i).lista utenti).Nodup ∧
      ∀ user, user ∈ (calls i).lista utenti ↔ Atteso id calls iniziali after user := by
  cases call : calls i with
  | aggiungi added =>
    -- nobody else adds this user, and it was not assigned before
    have absent : added ∉ utenti := by
      rw [members]
      rintro (⟨j, adds, done'⟩ | ⟨initial, -⟩)
      · cases given.distinct i j (by rw [call, adds])
        exact pending done'
      · exact given.fresh i added call initial
    refine ⟨List.nodup_append_comm.mp (List.nodup_cons.mpr ⟨absent, nodup⟩), fun user => ?_⟩
    rw [atteso_aggiunta call done same pending, ← members]
    simp [Delega.lista]
  | rimuovi gone =>
    refine ⟨nodup.erase gone, fun user => ?_⟩
    rw [atteso_rimossa call done given.distinct same pending, ← members, Delega.lista,
      nodup.mem_erase_iff, and_comm]

omit [DecidableEq ι] in
theorem concludi_of_lista_nil {call : Delega} {utenti : List String}
    (empty : call.lista utenti = []) :
    concludi id (call.lista utenti) call = cancella id := by
  cases call with
  | aggiungi user => simp [Delega.lista] at empty
  | rimuovi user =>
    rw [empty]
    rfl

theorem AssegnatariAttesi.scritta {utenti : List String} {d : Document}
    (holds : AssegnatariAttesi id calls iniziali c)
    (given : Delegabili calls iniziali) (reach : Reaches service guard (start id s calls) c)
    (guarded : ElencoAttuale id c i) (point : c.pool i = scrivi id (calls i) utenti)
    (found : c.store.get .todo id = some d)
    (pool : final.pool = Function.update c.pool i (concludi id ((calls i).lista utenti) (calls i)))
    (store : final.store = c.store.put .todo id
      (d.writes [("utenti", .value (.strings ((calls i).lista utenti)))])) :
    AssegnatariAttesi id calls iniziali final := by
  obtain ⟨now, decodes, nodup, members⟩ := holds.stored d found
  -- the call writes what it makes of the assignees that are stored now
  have written : (calls i).lista utenti = (calls i).lista now.utenti := by
    have asks := congrArg Process.nextOp point
    obtain ⟨old, a, member, decodes', point'⟩ := read_of_reaches reach i _ asks
    have current := utenti_eq_of_assegnatari decodes decodes' (guarded.1 _ old d asks member found)
    have same := congrArg Process.nextOp (point.symm.trans point')
    rw [current]
    have field := Option.some.inj same
    simp only [Op.update.injEq, List.cons.injEq, Prod.mk.injEq, FieldWrite.value.injEq, and_true,
      true_and] at field
    exact Value.strings_injective field
  rw [written] at pool store
  have done : Fatta id (final.pool i) := by
    rw [pool, Function.update_self]
    exact fatta_concludi id _ _
  have others : ∀ j, j ≠ i → (Fatta id (final.pool j) ↔ Fatta id (c.pool j)) := by
    intro j differ
    rw [pool, Function.update_of_ne differ]
  have pending : ¬ Fatta id (c.pool i) :=
    not_fatta_of_nextOp (congrArg Process.nextOp point) (by rintro ⟨⟩)
  obtain ⟨nodup', members'⟩ := mem_lista given nodup members done others pending
  refine ⟨fun d' found' => ?_, fun missing => ?_, fun d' found' empty => ?_,
    fun j user adds ended unfinished => ?_⟩
  · rw [store, Store.get_put_self] at found'
    cases found'
    exact ⟨_, decodes.write_utenti _, nodup', members'⟩
  · rw [store, Store.get_put_self] at missing
    cases missing
  · rw [store, Store.get_put_self] at found'
    cases found'
    rw [(decodes.write_utenti _).assegnatari, List.map_eq_nil_iff] at empty
    refine .inl ⟨i, ?_⟩
    rw [pool, Function.update_self]
    exact concludi_of_lista_nil empty
  · have differ : j ≠ i := by
      rintro rfl
      exact unfinished done
    rw [pool, Function.update_of_ne differ] at ended unfinished
    cases found.symm.trans (holds.refused j user adds ended unfinished)

theorem AssegnatariAttesi.cancellata (holds : AssegnatariAttesi id calls iniziali c)
    (guarded : ElencoAttuale id c i) (point : c.pool i = cancella id)
    (pool : final.pool = Function.update c.pool i (.done ()))
    (store : final.store = c.store.erase .todo id) : AssegnatariAttesi id calls iniziali final := by
  have gone : final.store.get .todo id = none := by rw [store, Store.get_erase_self]
  have fatte : ∀ j, Fatta id (final.pool j) ↔ Fatta id (c.pool j) := by
    intro j
    rw [pool]
    by_cases same : j = i
    · subst same
      rw [Function.update_self]
      exact iff_of_true (.inl rfl) (.inr point)
    · rw [Function.update_of_ne same]
  refine ⟨fun d found => ?_, fun _ user => ?_, fun d found => ?_, fun _ _ _ _ _ => gone⟩
  · cases gone.symm.trans found
  · rw [atteso_congr fatte]
    cases stored : c.store.get .todo id with
    | none => exact holds.missing stored user
    | some d =>
      obtain ⟨a, decodes, -, members⟩ := holds.stored d stored
      -- only a task without assignees is deleted
      have empty := guarded.2 d (congrArg Process.nextOp point) stored
      rw [decodes.assegnatari, List.map_eq_nil_iff] at empty
      rw [← members, empty]
      exact List.not_mem_nil
  · cases gone.symm.trans found

theorem assegnatariAttesi_step (given : Delegabili calls iniziali)
    (reach : Reaches service guard (start id s calls) c)
    (holds : AssegnatariAttesi id calls iniziali c) (guarded : ElencoAttuale id c i)
    (stepped : c.step service i choice = some final) :
    AssegnatariAttesi id calls iniziali final := by
  obtain ⟨x, p', pool, -, moved⟩ := step_moved reach stepped
  cases moved with
  | letta point _ _ _ next store =>
    refine holds.quiet pool store
      (not_fatta_of_nextOp (congrArg Process.nextOp point) (by rintro ⟨⟩)) ?_ ?_
    · exact not_fatta_of_nextOp (congrArg Process.nextOp next) (by rintro ⟨⟩)
    · rintro user - ended
      rw [next] at ended
      exact False.elim ended
  | rifiutata point refused next store =>
    refine holds.quiet pool store ?_ (next ▸ not_fatta_fallita id _ _) ?_
    · rcases point with point | ⟨_, point⟩ <;>
        exact not_fatta_of_nextOp (congrArg Process.nextOp point) (by rintro ⟨⟩)
    -- an addition is refused only where no task can be read
    · rintro user adds -
      cases stored : c.store.get .todo id with
      | none => rfl
      | some d =>
        obtain ⟨a, decodes, -⟩ := holds.stored d stored
        obtain ⟨_, removes, -⟩ := refused d a stored decodes
        cases adds.symm.trans removes
  | scritta point found next store =>
    exact holds.scritta given reach guarded point found (next ▸ pool) store
  | cancellata _ point next store => exact holds.cancellata guarded point (next ▸ pool) store

end

omit [DecidableEq ι] in
theorem start_pool (id : String) (s : Store) (calls : ι → Delega) (i : ι) :
    (start id s calls).pool i = carica id (calls i) :=
  process_eq_carica id (calls i)

theorem assegnatariAttesi_of_reaches {id : String} {s : Store} {calls : ι → Delega}
    {d : Document} {a : LeMieAttivita} {c : Config ι firestore Thrown Store Unit}
    (found : s.get .todo id = some d) (decodes : LeMieAttivita.Decodes id d a)
    (given : Delegabili calls a.utenti)
    (reach : Reaches service (ElencoAttuale id) (start id s calls) c) :
    AssegnatariAttesi id calls a.utenti c := by
  induction reach with
  | refl =>
    have unfinished : ∀ i, ¬ Fatta id ((start id s calls).pool i) := by
      intro i
      rw [start_pool]
      exact not_fatta_of_nextOp rfl (by rintro ⟨⟩)
    have expected : ∀ user, Atteso id calls a.utenti (start id s calls).pool user ↔
        user ∈ a.utenti := by
      simp [Atteso, Aggiunto, Rimosso, unfinished]
    refine ⟨fun d' found' => ?_, fun missing => ?_, fun d' found' empty => .inr ⟨?_, ?_⟩,
      fun i _ _ ended => ?_⟩
    · cases found.symm.trans found'
      exact ⟨a, decodes, given.nodup, fun user => (expected user).symm⟩
    · cases found.symm.trans missing
    · cases found.symm.trans found'
      rwa [decodes.assegnatari, List.map_eq_nil_iff] at empty
    · rintro user ⟨i, -, done⟩
      exact unfinished i done
    · rw [start_pool] at ended
      exact False.elim ended
  | step before guarded stepped ih => exact assegnatariAttesi_step given before ih guarded stepped

omit [DecidableEq ι] in
theorem fatta_iff_of_ended {id : String} {p : App Unit} (ended : p.Ended) :
    Fatta id p ↔ p = .done () := by
  refine ⟨fun done => done.elim (fun same => same) fun deleting => ?_, .inl⟩
  rw [deleting] at ended
  exact False.elim ended

/-- In every run in which a delegation writes only over the assignees it has read
and a removal deletes only a task without assignees, once all calls have ended
the assignees are the initial ones, with every user whose addition returned and
without every user whose removal returned, and the task exists just when there
are any. -/
theorem delegations_lose_nothing {id : String} {s : Store} {calls : ι → Delega} {d : Document}
    {a : LeMieAttivita} {c : Config ι firestore Thrown Store Unit} (found : s.get .todo id = some d)
    (decodes : LeMieAttivita.Decodes id d a) (given : Delegabili calls a.utenti)
    (someone : a.utenti ≠ [] ∨ ∃ i user, calls i = .aggiungi user)
    (reach : Reaches service (ElencoAttuale id) (start id s calls) c) (ended : c.AllEnded) :
    (∀ user, c.store.assegnato id user ↔ (∃ i, calls i = .aggiungi user ∧ c.pool i = .done ()) ∨
      user ∈ a.utenti ∧ ¬ ∃ i, calls i = .rimuovi user ∧ c.pool i = .done ()) ∧
    (c.store.get .todo id ≠ none ↔ ∃ user, c.store.assegnato id user) := by
  have holds := assegnatariAttesi_of_reaches found decodes given reach
  have fatte : ∀ i, Fatta id (c.pool i) ↔ c.pool i = .done () :=
    fun i => fatta_iff_of_ended (ended i)
  have expected : ∀ user, c.store.assegnato id user ↔ Atteso id calls a.utenti c.pool user := by
    intro user
    cases stored : c.store.get .todo id with
    | none =>
      refine iff_of_false ?_ (holds.missing stored user)
      rintro ⟨d', found', -⟩
      cases stored.symm.trans found'
    | some d' =>
      obtain ⟨a', decodes', -, members⟩ := holds.stored d' stored
      rw [← members]
      simp [Store.assegnato, stored, decodes'.assegnatari]
  refine ⟨fun user => ?_, ?_⟩
  · rw [expected]
    simp only [Atteso, Aggiunto, Rimosso, fatte]
  · constructor
    · intro exists'
      obtain ⟨d', stored⟩ := Option.ne_none_iff_exists'.mp exists'
      by_contra nobody
      obtain ⟨a', decodes', -, members⟩ := holds.stored d' stored
      have empty : d'.assegnatari = [] := by
        rw [decodes'.assegnatari, List.map_eq_nil_iff, List.eq_nil_iff_forall_not_mem]
        intro user member
        exact nobody ⟨user, (expected user).mpr ((members user).mp member)⟩
      rcases holds.empty d' stored empty with ⟨i, deleting⟩ | ⟨none, unadded⟩
      · have last := ended i
        rw [deleting] at last
        exact False.elim last
      · obtain ⟨i, user, adds⟩ := someone.resolve_left fun some => some none
        by_cases done : Fatta id (c.pool i)
        · exact unadded user ⟨i, adds, done⟩
        · cases stored.symm.trans (holds.refused i user adds (ended i) done)
    · rintro ⟨user, d', stored, -⟩ missing
      cases stored.symm.trans missing

/-! ## Two additions at once -/

def attivitaDiAnna : LeMieAttivita where
  id := some "t"
  titolo := "Capitolo 1"
  descrizione := "Prima stesura"
  dataScadenza := ⟨microsPerDay, false⟩
  dataCreazione := ⟨0, false⟩
  priorita := .media
  completato := false
  progetto := "p"
  utenti := ["anna"]
  fileUri := none

def storeDiAnna : Store := Store.empty.put .todo "t" attivitaDiAnna.toMap

theorem attivitaDiAnna_decodes : LeMieAttivita.Decodes "t" attivitaDiAnna.toMap attivitaDiAnna :=
  ⟨rfl, rfl, rfl, ⟨_, rfl, rfl⟩, ⟨_, rfl, rfl⟩, by decide, rfl, rfl, rfl, rfl⟩

def brunoPerAnna : Bool → Delega
  | false => .aggiungi "bruno"
  | true => .rimuovi "anna"

def unaAllaVolta : List (Bool × service.Choice) :=
  [(false, ""), (false, ""), (true, ""), (true, "")]

theorem along_unaAllaVolta : (start "t" storeDiAnna brunoPerAnna).Along service
    (ElencoAttuale "t") unaAllaVolta := by
  refine .cons rfl ⟨by rintro _ _ _ ⟨⟩, by rintro _ ⟨⟩⟩ (.cons rfl ⟨?_, by rintro _ ⟨⟩⟩
    (.cons rfl ⟨by rintro _ _ _ ⟨⟩, by rintro _ ⟨⟩⟩ (.cons rfl ⟨?_, by rintro _ ⟨⟩⟩ trivial)))
  · rintro _ _ _ ⟨⟩ member found
    cases List.mem_singleton.mp member
    cases found
    rfl
  · rintro _ _ _ ⟨⟩ member found
    cases found
    rcases List.mem_cons.mp member with same | member
    · cases same
      rfl
    · rcases List.mem_cons.mp member with same | member
      · cases same
      · cases List.mem_singleton.mp member

theorem delegations_lose_nothing_unaAllaVolta : ∃ c : Config Bool firestore Thrown Store Unit,
    (start "t" storeDiAnna brunoPerAnna).run service unaAllaVolta = some c ∧ c.AllEnded ∧
    c.store.assegnato "t" "bruno" ∧ ¬ c.store.assegnato "t" "anna" := by
  have given : Delegabili brunoPerAnna attivitaDiAnna.utenti := by
    refine ⟨by decide, ?_, ?_⟩
    · rintro (_ | _) (_ | _) same <;> first | rfl | exact absurd same (by decide)
    · rintro (_ | _) _ ⟨⟩
      decide
  obtain ⟨c, ran⟩ : ∃ c, (start "t" storeDiAnna brunoPerAnna).run service unaAllaVolta = some c :=
    ⟨_, rfl⟩
  have ended : c.AllEnded := by
    cases ran
    rintro (_ | _) <;> trivial
  have done : ∀ i, c.pool i = .done () := by
    cases ran
    rintro (_ | _) <;> rfl
  have kept := (delegations_lose_nothing rfl attivitaDiAnna_decodes given (.inl (by decide))
    (.of_run _ ran along_unaAllaVolta) ended).1
  refine ⟨c, ran, ended, (kept "bruno").mpr (.inl ⟨false, rfl, done false⟩), fun anna => ?_⟩
  rcases (kept "anna").mp anna with ⟨_ | _, adds, -⟩ | ⟨-, stays⟩
  · exact absurd (Delega.aggiungi.inj adds) (by decide)
  · cases adds
  · exact stays ⟨true, rfl, done true⟩

def brunoECarla : Bool → Delega
  | false => .aggiungi "bruno"
  | true => .aggiungi "carla"

/-- Both additions return normally, and bruno is not assigned. -/
theorem addition_lost : ∃ c : Config Bool firestore Thrown Store Unit,
    Reaches service Config.anyStep (start "t" storeDiAnna brunoECarla) c ∧ c.AllEnded ∧
    (∀ i, c.pool i = .done ()) ∧ c.store.assegnato "t" "carla" ∧
    ¬ c.store.assegnato "t" "bruno" := by
  refine ⟨_, .of_run [(false, ""), (true, ""), (false, ""), (true, "")] rfl
    (Config.along_anyStep _ _), ?_, ?_, ⟨_, rfl, ?_⟩, ?_⟩
  · rintro (_ | _) <;> trivial
  · rintro (_ | _) <;> rfl
  · exact List.mem_cons_of_mem _ List.mem_cons_self
  · rintro ⟨d, found, member⟩
    cases found
    have alone : Item.string "bruno" ∈ [Item.string "anna", Item.string "carla"] := member
    simp at alone

end TeamSync.Tasks
