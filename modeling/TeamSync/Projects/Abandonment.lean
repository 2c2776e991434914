import TeamSync.Projects.System

/-! Joins and leaves together: who is evicted, and what is cleaned up. -/

set_option autoImplicit false

namespace TeamSync.Projects

open Effects

variable {ι : Type} [DecidableEq ι]

/-- No call is about to delete a project that has a participant. -/
def NessunoSfrattato (c : System ι) : Prop :=
  ∀ i id, (c.pool i).nextOp = some (.delete .progetti id) → Deserto c.store id

/-- Whoever was last acknowledged as joining takes part in an existing project. -/
def IscrittiPresenti (c : System ι) : Prop :=
  ∀ user id, ultima user id c = some true → ∃ d, c.store.get .progetti id = some d ∧
    d.partecipa user

/-- No join of an existing project steps while a leave is about to delete the project. -/
def SenzaGara (c : System ι) (i : ι) : Prop :=
  ∀ user id, (c.pool i).nextOp = some (opUnisciti user id) → c.store.get .progetti id ≠ none →
    ∀ j, (c.pool j).nextOp ≠ some (.delete .progetti id)

theorem Deserto.put {s : Store} {id other : String} {d : Document} (empty : Deserto s other)
    (written : id = other → d.partecipanti = []) : Deserto (s.put .progetti id d) other := by
  intro d' found
  rw [Store.get_put] at found
  split at found
  · next same =>
    cases found
    exact written same.2.symm
  · exact empty d' found

theorem Deserto.erase {s : Store} {id other : String} (empty : Deserto s other) :
    Deserto (s.erase .progetti id) other := by
  intro d found
  rw [Store.get_erase] at found
  split at found
  · cases found
  · exact empty d found

theorem partecipanti_esce_nil {d : Document} {user : String} (empty : d.partecipanti = []) :
    (d.esce user).partecipanti = [] := by
  rw [Document.partecipanti, Document.esce_field, empty]
  rfl

section
variable {s : Store} {calls : ι → MembershipCall} {c final : System ι} {i : ι}
    {choice : network.Choice}

theorem nessunoSfrattato_step
    (reach : Reaches network SenzaGara (start s fun i => .membro (calls i)) c)
    (holds : NessunoSfrattato c)
    (guarded : SenzaGara c i) (stepped : c.step network i choice = some final) :
    NessunoSfrattato final := by
  obtain ⟨x, p', pool, -, -, moved⟩ := step_moved reach stepped
  intro j id head
  -- a pending deletion is the next step of the call that moved, or was pending before
  have pending := nextOp_update pool head
  cases moved with
  | letto quiet deletes _ _ store =>
    rw [store]
    rcases pending with ⟨-, head⟩ | head
    · exact deletes id head
    · exact holds j id head
  | entrato _ point found _ next store =>
    rcases pending with ⟨-, head⟩ | head
    · cases next ▸ head
    · rw [store]
      refine (holds j id head).put fun same => ?_
      subst same
      -- the guard forbids a join of what is about to be deleted
      have racing := guarded _ _ (congrArg Process.nextOp point)
        (by rw [found]; exact Option.some_ne_none _)
      exact absurd head (racing j)
  | uscito _ _ found _ next store =>
    rcases pending with ⟨-, head⟩ | head
    · cases next ▸ head
    · rw [store]
      refine (holds j id head).put fun same => ?_
      subst same
      -- nobody is left to be removed
      exact partecipanti_esce_nil (holds j _ head _ found)
  | eliminato _ _ _ next store =>
    rcases pending with ⟨-, head⟩ | head
    · cases next ▸ head
    · rw [store]
      exact (holds j id head).erase
  | modificato edits => cases edits

theorem iscrittiPresenti_step
    (reach : Reaches network SenzaGara (start s fun i => .membro (calls i)) c)
    (safe : NessunoSfrattato c)
    (holds : IscrittiPresenti c) (stepped : c.step network i choice = some final) :
    IscrittiPresenti final := by
  obtain ⟨x, p', -, trace, -, moved⟩ := step_moved reach stepped
  intro user id last
  have changes : final.store.partecipa id user ↔
      (appartenenza user id x).elim (c.store.partecipa id user) (· = true) := by
    cases moved with
    | letto quiet _ _ _ store =>
      rw [appartenenza_of_not_scritto quiet, store]
      rfl
    | entrato _ _ found exchange _ store =>
      rw [store, exchange]
      exact partecipa_put_entra found
    | uscito _ _ found exchange _ store =>
      rw [store, exchange]
      exact partecipa_put_esce found
    | @eliminato u id' _ point exchange _ store =>
      -- nobody takes part in what is deleted
      have unrelated : appartenenza user id x = none := by rw [exchange]; rfl
      rw [store, unrelated, Store.partecipa_erase]
      refine and_iff_right_of_imp ?_
      rintro ⟨d, found, member⟩ rfl
      rw [Document.partecipa, safe i id (congrArg Process.nextOp point) d found] at member
      cases member
    | modificato edits => cases edits
  exact (ultima_step trace changes (fun before => iff_of_true (holds user id before) rfl)
    last).mpr rfl

end

/-- In every run in which no join of an existing project steps while a leave is
about to delete the project: no project with a participant is ever about to be
deleted, and whoever has joined takes part in an existing project until leaving. -/
theorem no_eviction {s : Store} {calls : ι → MembershipCall} {c : System ι}
    (reach : Reaches network SenzaGara (start s fun i => .membro (calls i)) c) :
    (∀ i id d, (c.pool i).nextOp = some (.delete .progetti id) → c.store.get .progetti id = some d →
      d.partecipanti = []) ∧
    (∀ user id, ultima user id c = some true → ∃ d, c.store.get .progetti id = some d ∧
      d.partecipa user) ∧
    (∀ i user codice message, calls i = .unisciti user codice →
      c.pool i = .done (.unito (true, message)) →
        ∃ id, (i, ⟨opUnisciti user id, .ok ()⟩) ∈ c.trace) := by
  have invariant : NessunoSfrattato c ∧ IscrittiPresenti c := by
    induction reach with
    | refl =>
      refine ⟨fun i id head => ?_, fun user id last => by cases last⟩
      cases @ProjectCall.isRead_of_process (.membro (calls i)) _ head
    | step before guarded stepped ih =>
      exact ⟨nessunoSfrattato_step before ih.1 guarded stepped,
        iscrittiPresenti_step before ih.1 ih.2 stepped⟩
  refine ⟨fun i id d head found => invariant.1 i id head d found, invariant.2, ?_⟩
  intro i user codice message joins returned
  exact scritto_of_unito reach (by rw [joins]) returned

/-! ## A join between the last look and the deletion -/

def progettoDiAnna : Progetto where
  id := none
  nome := "Tesi"
  descrizione := some "Bozza"
  dataCreazione := ⟨0, false⟩
  dataScadenza := ⟨microsPerDay, false⟩
  dataConsegna := ⟨microsPerDay, false⟩
  priorita := .alta
  partecipanti := ["anna"]
  voto := "Non Valutato"
  completato := false
  codice := "1a2b3c4d"

def storeConProgetto : Store :=
  Store.empty.put .progetti "p" (RepositoryProgetto.creaProgettoMap progettoDiAnna)

def annaEBruno : Bool → MembershipCall
  | false => .abbandona (some "anna") "p"
  | true => .unisciti "bruno" "1a2b3c4d"

def primaBruno : List (Bool × network.Choice) :=
  [(true, .inr ""), (true, .inr ""), (true, .inr ""), (false, .inr ""), (false, .inr ""),
    (false, .inr ""), (false, .inr "")]

theorem along_primaBruno :
    (start storeConProgetto fun i => .membro (annaEBruno i)).Along network SenzaGara
    primaBruno := by
  refine .cons rfl (by rintro _ _ ⟨⟩) (.cons rfl (by rintro _ _ ⟨⟩) (.cons rfl ?_ ?_))
  · rintro _ _ ⟨⟩ _ (_ | _) <;> rintro ⟨⟩
  · exact .cons rfl (by rintro _ _ ⟨⟩) (.cons rfl (by rintro _ _ ⟨⟩) (.cons rfl (by rintro _ _ ⟨⟩)
      (.cons rfl (by rintro _ _ ⟨⟩) trivial)))

theorem no_eviction_primaBruno : ∃ c : System Bool,
    (start storeConProgetto fun i => .membro (annaEBruno i)).run network primaBruno = some c ∧
    c.AllEnded ∧
    ∃ d, c.store.get .progetti "p" = some d ∧ d.partecipa "bruno" := by
  obtain ⟨c, ran⟩ : ∃ c, (start storeConProgetto fun i => .membro (annaEBruno i)).run network
      primaBruno = some c :=
    ⟨_, rfl⟩
  have stays := (no_eviction (.of_run primaBruno ran along_primaBruno)).2.1 "bruno" "p"
  refine ⟨c, ran, ?_⟩
  cases ran
  exact ⟨by rintro (_ | _) <;> trivial, stays rfl⟩

/-- Bruno has joined the project that anna is about to delete, and it goes. -/
theorem eviction : ∃ mid final : System Bool,
    Reaches service Config.anyStep (start storeConProgetto fun i => .membro (annaEBruno i)) mid ∧
    (∃ d, (mid.pool false).nextOp = some (.delete .progetti "p") ∧
      mid.store.get .progetti "p" = some d ∧ d.partecipanti = [.string "bruno"]) ∧
    Reaches service Config.anyStep mid final ∧ final.AllEnded ∧
    final.pool true = .done (.unito (true, none)) ∧ ultima "bruno" "p" final = some true ∧
    final.store.get .progetti "p" = none := by
  refine ⟨_, _, .of_run [(false, ""), (false, ""), (false, ""), (true, ""), (true, ""),
    (true, "")] rfl (Config.along_anyStep _ _), ⟨_, rfl, rfl, ?_⟩,
      .of_run [(false, ""), (false, "")] rfl
    (Config.along_anyStep _ _), ?_, rfl, ?_, rfl⟩
  · rfl
  · rintro (_ | _) <;> trivial
  · rfl

end TeamSync.Projects
