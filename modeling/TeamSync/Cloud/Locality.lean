import TeamSync.Cloud.Service
import TeamSync.Library.Independence

/-! The calls that read and write one document.

Queries look at a whole collection, and `add` at all its identifiers: neither is
among these calls.
-/

set_option autoImplicit false

namespace TeamSync

open Effects

abbrev Posto := CollectionName × String

def Store.documento (s : Store) (posto : Posto) : Option Document := s.get posto.1 posto.2

/-- The call reads or writes this document and no other. -/
def Op.Su (op : Op) (posto : Posto) : Prop :=
  match op with
  | .get c id | .set c id _ | .update c id _ | .delete c id => posto = (c, id)
  | .callback _ | .onSuccess _ => True
  | .query _ _ | .add _ _ => False

section
variable {s t : Store} {c : CollectionName} {id : String} {d : Document}

theorem Store.documento_put_of_ne {posto : Posto} (differ : posto ≠ (c, id)) :
    (s.put c id d).documento posto = s.documento posto := by
  rw [documento, Store.get_put, if_neg fun same => differ (Prod.ext same.1 same.2)]
  rfl

theorem Store.documento_erase_of_ne {posto : Posto} (differ : posto ≠ (c, id)) :
    (s.erase c id).documento posto = s.documento posto := by
  rw [documento, Store.get_erase, if_neg fun same => differ (Prod.ext same.1 same.2)]
  rfl

end

theorem service_local : service.Local Store.documento Op.Su where
  frame {newId op s reply final posto} su answered other differ := by
    cases op with
    | query | add => exact su.elim
    | get c id | callback eliminato | onSuccess id =>
      cases answered
      rfl
    | set c id data =>
      cases answered
      exact Store.documento_put_of_ne (su ▸ differ)
    | delete c id =>
      cases answered
      exact Store.documento_erase_of_ne (su ▸ differ)
    | update c id data =>
      simp only [service, exec] at answered
      split at answered <;> cases answered
      · exact Store.documento_put_of_ne (su ▸ differ)
      · rfl
  transfer {newId op s reply final posto t} su answered same := by
    cases op with
    | query | add => exact su.elim
    | callback eliminato | onSuccess id =>
      cases answered
      exact ⟨t, rfl, same⟩
    | get c id =>
      cases su
      cases answered
      exact ⟨t, by rw [← show t.get c id = s.get c id from same]; rfl, same⟩
    | set c id data =>
      cases su
      cases answered
      exact ⟨t.put c id data, rfl, by simp [Store.documento]⟩
    | delete c id =>
      cases su
      cases answered
      exact ⟨t.erase c id, rfl, by simp [Store.documento]⟩
    | update c id data =>
      cases su
      have same : t.get c id = s.get c id := same
      simp only [service, exec] at answered ⊢
      cases found : s.get c id with
      | none =>
        simp only [found] at answered
        cases answered
        simp only [same, found]
        exact ⟨t, rfl, same.trans rfl⟩
      | some d =>
        simp only [found] at answered
        cases answered
        simp only [same, found]
        exact ⟨_, rfl, by simp [Store.documento]⟩

end TeamSync
