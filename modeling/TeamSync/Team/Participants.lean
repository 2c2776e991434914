import TeamSync.Team.Documents

/-! The participants of a project, without repetitions. -/

set_option autoImplicit false

namespace TeamSync.Team

open Effects Projects

theorem nodup_entra {d : Document} (user : String) (distinct : d.partecipanti.Nodup) :
    (d.entra user).partecipanti.Nodup := by
  rw [Document.partecipanti, Document.entra_field, FieldWrite.elements_array]
  split
  · exact distinct
  · next new => exact distinct.append (List.nodup_singleton _) (by simpa using new)

theorem nodup_esce {d : Document} (user : String) (distinct : d.partecipanti.Nodup) :
    (d.esce user).partecipanti.Nodup := by
  rw [Document.partecipanti, Document.esce_field, FieldWrite.elements_array]
  exact distinct.filter _

def senzaRipetizioni : Regola where
  vale c _ d := c = .progetti → d.partecipanti.Nodup
  nuovo d := d.partecipanti.Nodup
  entra user distinct _ := nodup_entra user (distinct rfl)
  esce user distinct _ := nodup_esce user (distinct rfl)
  modifica distinct decodes _ _ _ _ _ _ _ _ := by
    rw [partecipanti_modificato decodes]
    exact distinct rfl
  attivita _ _ tasks := by cases tasks
  completa _ _ tasks := by cases tasks
  assegna _ _ tasks := by cases tasks

/-- A project is created with its creator alone. -/
def TeamCall.DelCreatore : TeamCall → Prop
  | .addProgetto _ _ _ _ _ _ _ _ partecipanti => ∃ user, partecipanti = [user]
  | _ => True

theorem nodup_of_crea {call : TeamCall} (alone : call.DelCreatore) {data : Document}
    (creates : call.crea = some data) : data.partecipanti.Nodup := by
  cases call with
  | addProgetto =>
    cases creates
    obtain ⟨user, rfl⟩ := alone
    exact List.nodup_singleton _
  | _ => cases creates

/-- From the empty database, no user is ever listed twice in a stored project. -/
theorem participants_never_repeat {ι : Type} [DecidableEq ι] {calls : ι → TeamCall}
    {c : Config ι firestore Thrown Store Unit}
    (reach : Reaches network Config.anyStep (start .empty calls) c)
    (alone : ∀ i, (calls i).DelCreatore) {id : String} {d : Document}
    (stored : c.store.get .progetti id = some d) : d.partecipanti.Nodup := by
  have holds : senzaRipetizioni.invariante c.store := by
    refine stored_documents_vale reach ?_ (fun i data => nodup_of_crea (alone i)) ?_
    · intro collection key d' found
      cases found
    · intro x _ data key _ distinct _
      exact distinct
  exact holds .progetti id d stored rfl

/-! ## Two joins of one user, and an edit that has read before them -/

inductive Chiamante where
  | creatrice
  | unione
  | altraUnione
  | modifica
  deriving DecidableEq

def dueUnioni : Chiamante → TeamCall
  | .creatrice => .addProgetto ⟨none, [], some "anna", [], false⟩ ⟨0, false⟩ "x"
      "01234567-89ab-4cde-8f01-23456789abcd" "Tesi" "" ⟨microsPerDay, false⟩ .media ["anna"]
  | .unione | .altraUnione => .suProgetto (.membro (.unisciti "bruno" "01234567"))
  | .modifica =>
    .suProgetto (.aggiorna ⟨none, [], none, [], false⟩ "p" "Tesi" ""
      ⟨microsPerDay, false⟩ .media false "Non Valutato" ⟨microsPerDay, false⟩)

/-- Both joins pass the check before either writes, and the edit writes last. -/
theorem participants_never_repeat_bruno : ∃ c d,
    (start .empty dueUnioni).run network
      [(.creatrice, .inr "p"), (.creatrice, .inr ""), (.unione, .inr ""), (.altraUnione, .inr ""),
        (.unione, .inr ""), (.altraUnione, .inr ""), (.unione, .inr ""), (.modifica, .inr ""),
        (.altraUnione, .inr ""), (.modifica, .inr "")] = some c ∧
    c.store.get .progetti "p" = some d ∧
    d.partecipanti = [.string "anna", .string "bruno"] ∧ d.partecipanti.Nodup := by
  obtain ⟨c, ran⟩ : ∃ c, (start .empty dueUnioni).run network
      [(.creatrice, .inr "p"), (.creatrice, .inr ""), (.unione, .inr ""), (.altraUnione, .inr ""),
        (.unione, .inr ""), (.altraUnione, .inr ""), (.unione, .inr ""), (.modifica, .inr ""),
        (.altraUnione, .inr ""), (.modifica, .inr "")] = some c := ⟨_, rfl⟩
  obtain ⟨d, stored, same⟩ : ∃ d, c.store.get .progetti "p" = some d ∧
      d.partecipanti = [.string "anna", .string "bruno"] := by
    cases ran
    exact ⟨_, rfl, rfl⟩
  refine ⟨c, d, ran, stored, same, participants_never_repeat
    (.of_run _ ran (Config.along_anyStep _ _)) ?_ stored⟩
  rintro (_ | _ | _ | _)
  · exact ⟨"anna", rfl⟩
  all_goals trivial

end TeamSync.Team
