import TeamSync.Projects.Abandonment

/-! Edits of projects among joins and leaves. -/

set_option autoImplicit false

namespace TeamSync.Projects

open Effects

variable {ι : Type} [DecidableEq ι]

/-- An edit writes while the participants it has read are still the stored ones,
and a leave deletes a project that is still without participants. -/
def LetturaAttuale (c : System ι) (i : ι) : Prop :=
  (∀ id data d, (c.pool i).nextOp = some (.set .progetti id data) →
    (i, ⟨.get .progetti id, .ok (some d)⟩) ∈ c.trace → ∀ user, c.store.partecipa id user ↔
      d.partecipa user) ∧
  ∀ id, (c.pool i).nextOp = some (.delete .progetti id) → ∀ user, ¬ c.store.partecipa id user

def ScritturaLetta (c : System ι) : Prop :=
  ∀ i id data, (c.pool i).nextOp = some (.set .progetti id data) →
    ∃ d, (i, ⟨.get .progetti id, .ok (some d)⟩) ∈ c.trace ∧ data.partecipanti = d.partecipanti

section
variable {s : Store} {calls : ι → ProjectCall} {c final : System ι}
    {guard : System ι → ι → Prop} {i : ι}
  {choice : network.Choice}

theorem nextOp_process_ne_set {call : ProjectCall} {id : String} {data : Document} :
    call.process.nextOp ≠ some (.set .progetti id data) := by
  intro head
  cases ProjectCall.isRead_of_process head

theorem nextOp_ne_set_of_reads {A : Type} {p : App A} {id : String} {data : Document}
    (reads : Reads p) :
    p.nextOp ≠ some (.set .progetti id data) := by
  intro head
  cases p with
  | done a => cases head
  | raise e => cases head
  | call op next =>
    cases head
    cases reads.1

theorem scritturaLetta (reach : Reaches network guard (start s calls) c) : ScritturaLetta c := by
  induction reach with
  | refl => exact fun i id data head => absurd head nextOp_process_ne_set
  | @step mid final j choice before _ stepped ih =>
    obtain ⟨x, p', pool, trace, -, moved⟩ := step_moved before stepped
    intro i id data head
    rcases nextOp_update pool head with ⟨rfl, head⟩ | head
    · cases moved with
      | letto _ _ writes =>
        -- the write is made from the read just before it
        obtain ⟨d, exchange, -, same⟩ := writes id data head
        exact ⟨d, by rw [trace, exchange]; exact List.mem_cons_self, same⟩
      | entrato _ _ _ _ next | uscito _ _ _ _ next | eliminato _ _ _ next => cases next ▸ head
      | modificato _ _ _ reads => exact absurd head (nextOp_ne_set_of_reads reads)
    · obtain ⟨d, member, same⟩ := ih i id data head
      exact ⟨d, by rw [trace]; exact List.mem_cons_of_mem _ member, same⟩

theorem partecipa_step (reach : Reaches network guard (start s calls) c)
    (guarded : LetturaAttuale c i) {x : Exchange firestore Thrown} {p' : App Result}
    (moved : (calls i).Moved c.store (c.pool i) x p' final.store) (user id : String) :
    final.store.partecipa id user ↔
      (appartenenza user id x).elim (c.store.partecipa id user) (· = true) := by
  cases moved with
  | letto quiet _ _ _ store =>
    rw [appartenenza_of_not_scritto quiet, store]
    rfl
  | entrato _ _ found exchange _ store =>
    rw [store, exchange]
    exact partecipa_put_entra found
  | uscito _ _ found exchange _ store =>
    rw [store, exchange]
    exact partecipa_put_esce found
  | @eliminato u id' _ point exchange _ store =>
    have unrelated : appartenenza user id x = none := by rw [exchange]; rfl
    rw [store, unrelated, Store.partecipa_erase]
    have empty := guarded.2 id' (congrArg Process.nextOp point) user
    refine and_iff_right_of_imp ?_
    rintro member rfl
    exact empty member
  | @modificato _ id' _ _ _ _ _ _ _ data _ point exchange _ store =>
    have unrelated : appartenenza user id x = none := by rw [exchange]; rfl
    rw [store, unrelated, Store.partecipa_put]
    obtain ⟨d, member, same⟩ := scritturaLetta reach i id' data point
    -- the participants that the edit has read are still the stored ones
    have current := guarded.1 id' data d point member user
    split
    · next there =>
      subst there
      rw [Document.partecipa, same]
      exact current.symm
    · rfl

end

/-- In every run in which an edit writes only what it has read as current: whoever
was last acknowledged as joining takes part, whoever was last acknowledged as
leaving does not. -/
theorem edits_keep_membership {s : Store} {calls : ι → ProjectCall} {c : System ι}
    (reach : Reaches network LetturaAttuale (start s calls) c) :
    (∀ user id joined, ultima user id c = some joined →
      (c.store.partecipa id user ↔ joined = true)) ∧
    (∀ i user codice message, calls i = .membro (.unisciti user codice) →
      c.pool i = .done (.unito (true, message)) →
        ∃ id, (i, ⟨opUnisciti user id, .ok ()⟩) ∈ c.trace) ∧
    ∀ i user id, calls i = .membro (.abbandona (some user) id) → c.pool i = .done .finito →
      (i, ⟨opAbbandona user id, .ok ()⟩) ∈ c.trace := by
  refine ⟨?_, fun i user codice message joins returned => scritto_of_unito reach joins returned,
    fun i user id leaves returned => scritto_of_finito reach leaves returned⟩
  induction reach with
  | refl =>
    intro user id joined last
    cases last
  | step before guarded stepped ih =>
    intro user id joined last
    obtain ⟨x, p', -, trace, -, moved⟩ := step_moved before stepped
    exact ultima_step trace (partecipa_step before guarded moved user id) (ih user id joined) last

/-! ## A join between the read and the write of an edit -/

def modificaEBruno : Bool → ProjectCall
  | false =>
    .aggiorna ⟨none, [], some "anna", [], false⟩ "p" "Tesina" "Bozza" ⟨microsPerDay, false⟩ .alta
      false "Non Valutato" ⟨microsPerDay, false⟩
  | true => .membro (.unisciti "bruno" "1a2b3c4d")

def primaLaModifica : List (Bool × network.Choice) :=
  [(false, .inr ""), (false, .inr ""), (false, .inr ""), (false, .inr ""), (true, .inr ""),
    (true, .inr ""), (true, .inr "")]

theorem along_primaLaModifica :
    (start storeConProgetto modificaEBruno).Along network LetturaAttuale primaLaModifica := by
  refine .cons rfl ⟨by rintro _ _ _ ⟨⟩, by rintro _ ⟨⟩⟩ (.cons rfl ⟨?_, by rintro _ ⟨⟩⟩ ?_)
  · rintro _ _ _ ⟨⟩ member user
    cases List.mem_singleton.mp member
    exact Store.partecipa_of_get rfl
  · exact .cons rfl ⟨by rintro _ _ _ ⟨⟩, by rintro _ ⟨⟩⟩
      (.cons rfl ⟨by rintro _ _ _ ⟨⟩, by rintro _ ⟨⟩⟩
        (.cons rfl ⟨by rintro _ _ _ ⟨⟩, by rintro _ ⟨⟩⟩
          (.cons rfl ⟨by rintro _ _ _ ⟨⟩, by rintro _ ⟨⟩⟩
        (.cons rfl ⟨by rintro _ _ _ ⟨⟩, by rintro _ ⟨⟩⟩ trivial))))

theorem edits_keep_membership_ordered : ∃ c : System Bool,
    (start storeConProgetto modificaEBruno).run network primaLaModifica = some c ∧ c.AllEnded ∧
    c.store.partecipa "p" "bruno" := by
  obtain ⟨c, ran⟩ : ∃ c, (start storeConProgetto modificaEBruno).run network primaLaModifica =
    some c := ⟨_, rfl⟩
  have kept := (edits_keep_membership (.of_run _ ran along_primaLaModifica)).1 "bruno" "p" true
  have ended : c.AllEnded := by
    cases ran
    rintro (_ | _) <;> trivial
  have last : ultima "bruno" "p" c = some true := by
    cases ran
    rfl
  exact ⟨c, ran, ended, (kept last).mpr rfl⟩

/-- Bruno's join has returned true, he has not left, and he is not a participant. -/
theorem edit_undoes_join : ∃ c : System Bool,
    Reaches service Config.anyStep (start storeConProgetto modificaEBruno) c ∧ c.AllEnded ∧
    c.pool true = .done (.unito (true, none)) ∧ ultima "bruno" "p" c = some true ∧
    ¬ c.store.partecipa "p" "bruno" := by
  refine ⟨_, .of_run [(false, ""), (true, ""), (true, ""), (true, ""), (false, ""), (false, ""),
    (false, "")] rfl (Config.along_anyStep _ _), ?_, rfl, ?_, ?_⟩
  · rintro (_ | _) <;> trivial
  · rfl
  · rintro ⟨d, found, member⟩
    cases found
    have alone : Item.string "bruno" ∈ [Item.string "anna"] := member
    simp at alone

end TeamSync.Projects
