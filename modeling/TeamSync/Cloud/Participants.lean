import TeamSync.Cloud.Service

/-! The participant list of a stored project and the two atomic changes of it. -/

set_option autoImplicit false

namespace TeamSync

def Document.partecipanti (d : Document) : List Item := FieldWrite.elements (d "partecipanti")

def Document.partecipa (d : Document) (user : String) : Prop := .string user ∈ d.partecipanti

def Document.entra (d : Document) (user : String) : Document :=
  d.writes [("partecipanti", .arrayUnion [.string user])]

def Document.esce (d : Document) (user : String) : Document :=
  d.writes [("partecipanti", .arrayRemove [.string user])]

namespace Document

theorem partecipanti_of_asStrings {d : Document} {xs : List String}
    (read : Value.asStrings (d "partecipanti") = .ok xs) : d.partecipanti = xs.map .string :=
  Value.elements_of_asStrings read

theorem entra_field (d : Document) (user : String) : d.entra user "partecipanti" = some (.array
    (if .string user ∈ d.partecipanti then d.partecipanti
      else d.partecipanti ++ [.string user])) := by
  rw [entra, writes_one, Function.update_self]
  rfl

theorem entra_of_not_partecipa {d : Document} {user : String} (outside : ¬ d.partecipa user) :
    d.entra user =
      Function.update d "partecipanti" (some (.array (d.partecipanti ++ [.string user]))) := by
  have absent : .string user ∉ d.partecipanti := outside
  funext name
  by_cases same : name = "partecipanti"
  · subst same
    rw [entra_field, if_neg absent, Function.update_self]
  · rw [entra, writes_one, Function.update_of_ne same, Function.update_of_ne same]

theorem esce_field (d : Document) (user : String) :
    d.esce user "partecipanti" = some (.array (d.partecipanti.filter (· ≠ .string user))) := by
  simp [esce, partecipanti, FieldWrite.apply]

theorem esce_array (d : Document) (user : String) :
    d.esce user "partecipanti" = some (.array (d.esce user).partecipanti) := by
  rw [partecipanti, esce_field, FieldWrite.elements_array]

@[simp] theorem partecipa_entra {d : Document} {user other : String} :
    (d.entra user).partecipa other ↔ other = user ∨ d.partecipa other := by
  rw [partecipa, partecipa, partecipanti, entra_field, FieldWrite.elements_array]
  split
  · next member =>
    constructor
    · exact .inr
    · rintro (same | member')
      · exact same ▸ member
      · exact member'
  · simp [or_comm]

@[simp] theorem partecipa_esce {d : Document} {user other : String} :
    (d.esce user).partecipa other ↔ d.partecipa other ∧ other ≠ user := by
  rw [partecipa, partecipa, partecipanti, esce_field]
  simp

end Document

def Store.partecipa (s : Store) (id user : String) : Prop :=
  ∃ d, s.get .progetti id = some d ∧ d.partecipa user

theorem Store.partecipa_put {s : Store} {id other user : String} {d : Document} :
    (s.put .progetti id d).partecipa other user ↔
    if other = id then d.partecipa user else s.partecipa other user := by
  simp only [Store.partecipa, Store.get_put, true_and]
  split <;> simp

theorem Store.partecipa_erase {s : Store} {id other user : String} :
    (s.erase .progetti id).partecipa other user ↔ other ≠ id ∧ s.partecipa other user := by
  simp only [Store.partecipa, Store.get_erase, true_and]
  split
  · next same => simp [same]
  · next differ => simp [differ]

theorem Store.partecipa_of_get {s : Store} {id user : String} {d : Document}
    (found : s.get .progetti id = some d) : s.partecipa id user ↔ d.partecipa user := by
  simp [Store.partecipa, found]

end TeamSync
