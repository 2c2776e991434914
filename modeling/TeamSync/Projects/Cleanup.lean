import TeamSync.Projects.Abandonment

/-! Emptied projects are cleaned up, when no call fails for a reason of its own. -/

set_option autoImplicit false

namespace TeamSync.Projects

open Effects

variable {ι : Type} [DecidableEq ι]

/-- Some leave of the project has still to look at its participants, or to delete it. -/
def Incaricato (calls : ι → MembershipCall) (c : System ι) (id : String) : Prop :=
  ∃ i user, calls i = .abbandona (some user) id ∧ (c.pool i = leggi id ∨ c.pool i = elimina id)

/-- A stored project has participants, or an empty list that some leave is going to see. -/
def Seguito (calls : ι → MembershipCall) (c : System ι) (id : String) (d : Document) : Prop :=
  d.partecipanti ≠ [] ∨ d "partecipanti" = some (.array []) ∧ Incaricato calls c id

def Annunciato (c : System ι) (i : ι) : Prop :=
  (c.pool i).nextOp = some (.callback true) ∨ ∃ reply, (i, ⟨.callback true, reply⟩) ∈ c.trace

structure Pulizia (calls : ι → MembershipCall) (c : System ι) : Prop where
  seguiti : ∀ id d, c.store.get .progetti id = some d → Seguito calls c id d
  eliminati : ∀ i user id, calls i = .abbandona user id → Annunciato c i →
    c.store.get .progetti id = none

section
variable {s : Store} {calls : ι → MembershipCall} {c final : System ι} {i : ι}
    {choice : service.Choice}

/-- The leave in charge of an emptied project stays in charge until it has deleted it. -/
theorem Incaricato.step {id : String} {d : Document} (pending : Incaricato calls c id)
    (found : c.store.get .progetti id = some d) (empty : d "partecipanti" = some (.array []))
    (stepped : c.step service i choice = some final) :
    Incaricato calls final id ∨ final.store.get .progetti id = none := by
  obtain ⟨j, user, leaves, point⟩ := pending
  by_cases same : j = i
  · subst same
    -- its own step sees the empty list, or deletes the project
    rcases point with head | head
    · obtain ⟨reply, answered, pool, -⟩ := Config.step_of_call head stepped
      simp only [service, exec, Option.some.injEq, Prod.mk.injEq] at answered
      obtain ⟨rfl, -⟩ := answered
      refine .inl ⟨j, user, leaves, .inr ?_⟩
      rw [pool, Function.update_self, found]
      simp only [RepositoryProgetto.partecipantiDi, empty]
      rfl
    · obtain ⟨reply, answered, -, -⟩ := Config.step_of_call head stepped
      simp only [service, exec, Option.some.injEq, Prod.mk.injEq] at answered
      rw [← answered.2, Store.get_erase_self]
      exact .inr rfl
  -- the steps of the others leave it where it is
  · obtain ⟨_, _, _, -, -, pool, -⟩ := Config.step_cases stepped
    refine .inl ⟨j, user, leaves, ?_⟩
    rwa [pool, Function.update_of_ne same]

theorem missing_step {choice : network.Choice}
    (reach : Reaches network Config.anyStep (start s fun i => .membro (calls i)) c)
    (stepped : c.step network i choice = some final) {id : String}
    (gone : c.store.get .progetti id = none) : final.store.get .progetti id = none := by
  obtain ⟨x, p', -, -, -, moved⟩ := step_moved reach stepped
  cases moved with
  | letto _ _ _ _ store => rwa [store]
  | entrato _ _ found _ _ store | uscito _ _ found _ _ store =>
    rw [store, Store.get_put, if_neg, gone]
    rintro ⟨-, rfl⟩
    cases found.symm.trans gone
  | eliminato _ _ _ _ store =>
    rw [store, Store.get_erase, gone]
    split <;> rfl
  | modificato edits => cases edits

theorem seguiti_step (reach : Reaches service Config.anyStep (start s fun i => .membro (calls i)) c)
    (holds : Pulizia calls c) (stepped : c.step service i choice = some final) (id : String)
    (d : Document) (found : final.store.get .progetti id = some d) : Seguito calls final id d := by
  have stays : c.store.get .progetti id = some d → Seguito calls final id d := by
    intro before
    rcases holds.seguiti id d before with populated | ⟨empty, pending⟩
    · exact .inl populated
    · rcases pending.step before empty stepped with pending | gone
      · exact .inr ⟨empty, pending⟩
      · cases found.symm.trans gone
  obtain ⟨x, p', pool, -, -, moved⟩ := step_moved reach.faulty (Config.step_faulty stepped)
  cases moved with
  | letto _ _ _ _ store => exact stays (store ▸ found)
  | @entrato u _ id' d' _ _ _ _ _ store =>
    rw [store, Store.get_put] at found
    split at found
    · cases found
      exact .inl (List.ne_nil_of_mem (Document.partecipa_entra.mpr (.inl rfl)))
    · exact stays found
  | @uscito u id' d' leaves _ _ _ next store =>
    rw [store, Store.get_put] at found
    split at found
    · next same =>
      cases found
      -- the leave that empties the list is the one that looks at it next
      by_cases empty : (d'.esce u).partecipanti = []
      · refine .inr ⟨?_, i, u, by simpa [same.2] using leaves, .inl ?_⟩
        · rw [Document.esce_array, empty]
        · rw [pool, Function.update_self, next, same.2]
      · exact .inl empty
    · exact stays found
  | @eliminato u id' _ _ _ _ store =>
    rw [store, Store.get_erase] at found
    split at found
    · cases found
    · exact stays found
  | modificato edits => cases edits

theorem eliminati_step (reach : Reaches service Config.anyStep
      (start s fun i => .membro (calls i)) c)
    (holds : Pulizia calls c) (stepped : c.step service i choice = some final) (j : ι)
    (user : Option String)
    (id : String) (leaves : calls j = .abbandona user id) (announced : Annunciato final j) :
    final.store.get .progetti id = none := by
  have already : Annunciato c j → final.store.get .progetti id = none := fun before =>
    missing_step reach.faulty (Config.step_faulty stepped) (holds.eliminati j user id leaves before)
  obtain ⟨x, p', pool, trace, asked, moved⟩ := step_moved reach.faulty (Config.step_faulty stepped)
  rcases announced with head | ⟨reply, member⟩
  · rcases nextOp_update pool head with ⟨rfl, head⟩ | head
    · cases moved with
      | letto _ _ _ announces => exact absurd head announces
      | entrato _ _ _ _ next | uscito _ _ _ _ next => cases next ▸ head
      | eliminato leaves' _ _ _ store =>
        rw [leaves] at leaves'
        cases leaves'
        rw [store, Store.get_erase_self]
      | modificato edits => cases edits
    · exact already (.inl head)
  · rw [trace] at member
    rcases List.mem_cons.mp member with same | member
    · cases same
      exact already (.inl asked)
    · exact already (.inr ⟨reply, member⟩)

end

theorem pulizia {s : Store} {calls : ι → MembershipCall} {c : System ι}
    (populated : ∀ id d, s.get .progetti id = some d → d.partecipanti ≠ [])
    (reach : Reaches service Config.anyStep (start s fun i => .membro (calls i)) c) :
    Pulizia calls c := by
  induction reach with
  | refl =>
    refine ⟨fun id d found => .inl (populated id d found), ?_⟩
    -- every call starts by reading
    rintro i user id - (head | ⟨_, member⟩)
    · cases @ProjectCall.isRead_of_process (.membro (calls i)) _ head
    · cases member
  | step before _ stepped ih =>
    exact ⟨seguiti_step before ih stepped, eliminati_step before ih stepped⟩

/-- When all calls have ended, every stored project has a participant, and every
project announced as deleted is missing. -/
theorem cleanup_complete {s : Store} {calls : ι → MembershipCall} {c : System ι}
    (populated : ∀ id d, s.get .progetti id = some d → d.partecipanti ≠ [])
    (reach : Reaches service Config.anyStep (start s fun i => .membro (calls i)) c)
    (ended : c.AllEnded) :
    (∀ id d, c.store.get .progetti id = some d → d.partecipanti ≠ []) ∧
    ∀ i user id reply, calls i = .abbandona user id → (i, ⟨.callback true, reply⟩) ∈ c.trace →
      c.store.get .progetti id = none := by
  have clean := pulizia populated reach
  refine ⟨fun id d found => ?_, fun i user id reply leaves announced =>
    clean.eliminati i user id leaves (.inr ⟨reply, announced⟩)⟩
  rcases clean.seguiti id d found with populated | ⟨-, i, user, -, point⟩
  · exact populated
  · have last := ended i
    rcases point with head | head <;> (rw [head] at last; exact False.elim last)

def bentornato : List (Bool × service.Choice) :=
  [(true, ""), (false, ""), (false, ""), (false, ""), (true, ""), (false, ""), (true, ""),
    (false, "")]

theorem cleanup_complete_bentornato : ∃ c : System Bool,
    (start storeConProgetto fun i => .membro (annaEBruno i)).run service bentornato = some c ∧
    c.AllEnded ∧
    c.store.get .progetti "p" = none ∧
    c.pool true = .done
      (.unito (false, some "Si è verificato un errore durante l'aggiunta di un progetto")) := by
  have populated : ∀ id d, storeConProgetto.get .progetti id = some d → d.partecipanti ≠ [] := by
    intro id d found
    rw [storeConProgetto, Store.get_put] at found
    split at found
    · cases found
      exact List.cons_ne_nil _ _
    · cases found
  obtain ⟨c, ran⟩ : ∃ c, (start storeConProgetto fun i => .membro (annaEBruno i)).run service
      bentornato = some c :=
    ⟨_, rfl⟩
  have clean := cleanup_complete populated (.of_run bentornato ran (Config.along_anyStep _ _))
  have ended : c.AllEnded := by
    cases ran
    rintro (_ | _) <;> trivial
  have announced : (false, ⟨.callback true, .ok ()⟩) ∈ c.trace := by
    cases ran
    exact List.mem_cons_self
  have refused : c.pool true = .done (.unito (false,
      some "Si è verificato un errore durante l'aggiunta di un progetto")) := by
    cases ran
    rfl
  exact ⟨c, ran, ended, (clean ended).2 false _ "p" _ rfl announced, refused⟩

end TeamSync.Projects
