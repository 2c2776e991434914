import TeamSync.Tasks.Format
import TeamSync.Tasks.Repetition

/-! Removals of an assignee whose calls may fail. -/

set_option autoImplicit false

namespace TeamSync.Tasks

open Effects

/-- An error leaves the tasks as they were. Without an error the user is not assigned,
the task exists while somebody else is, and its other fields are the same. -/
def TuttoONiente (user id : String) (s : Store) (d : Document) (out : Except Thrown Unit)
    (final : Store) : Prop :=
  match out with
  | .error _ => ∀ key, final.get .todo key = s.get .todo key
  | .ok _ => ¬ final.assegnato id user ∧
      (final.get .todo id ≠ none ↔ ∃ other, other ≠ user ∧ s.assegnato id other) ∧
      ∀ d', final.get .todo id = some d' → ∀ name ≠ "utenti", d' name = d name

section
variable {user id : String} {s : Store} {d : Document} {a : LeMieAttivita}

theorem erase_ne_nil_iff {xs : List String} {x : String} (nodup : xs.Nodup) :
    xs.erase x ≠ [] ↔ ∃ y, y ≠ x ∧ y ∈ xs := by
  constructor
  · intro some
    obtain ⟨y, member⟩ := List.exists_mem_of_ne_nil _ some
    exact ⟨y, nodup.mem_erase_iff.mp member⟩
  · rintro ⟨y, other⟩
    exact List.ne_nil_of_mem (nodup.mem_erase_iff.mpr other)

theorem altri_assegnati_iff (stored : s.get .todo id = some d)
    (decodes : LeMieAttivita.Decodes id d a) (nodup : a.utenti.Nodup) :
    (∃ other, other ≠ user ∧ s.assegnato id other) ↔ a.utenti.erase user ≠ [] := by
  simp only [erase_ne_nil_iff nodup, assegnato_iff stored decodes]

end

/-- A removal that fails leaves everything, and one that does not does what it says,
just when no deletion of the task has failed: the empty list is written before. -/
theorem failed_removal_iff {user id : String} {s final : Store} {d : Document}
    {calls : List (Exchange firestore Thrown)} {out : Except Thrown Unit}
    (stored : s.get .todo id = some d) (distinct : d.assegnatari.Nodup)
    (run : Runs network (TodoRepository.removeUserFromTodo id user) s calls out final) :
    TuttoONiente user id s d out final ↔ NessunaFallita id calls := by
  have nodup : ∀ {a}, LeMieAttivita.Decodes id d a → a.utenti.Nodup := fun decodes => by
    rwa [decodes.assegnatari, nodup_items_iff] at distinct
  have ended : Esito id (.rimuovi user) s calls out final := runs_esito run
  cases ended with
  | rifiutata unfailed => exact iff_of_true (fun _ => rfl) unfailed
  | scritta found decodes _ some unfailed =>
    cases stored.symm.trans found
    refine iff_of_true ⟨not_assegnato_put_erase (nodup decodes), ?_, ?_⟩ unfailed
    · rw [altri_assegnati_iff stored decodes (nodup decodes), Store.get_put_self]
      exact iff_of_true (Option.some_ne_none _) some
    · intro d' written name differ
      rw [Store.get_put_self] at written
      cases written
      exact Document.writes_of_notMem (by simpa using differ) d
  | cancellata found decodes _ none unfailed =>
    cases stored.symm.trans found
    refine iff_of_true ⟨not_assegnato_erase, ?_, ?_⟩ unfailed
    · rw [altri_assegnati_iff stored decodes (nodup decodes), Store.get_erase_self]
      exact iff_of_false (fun stays => stays rfl) fun some => some none
    · intro d' written
      rw [Store.get_erase_self] at written
      cases written
  | @interrotta _ a e _ found decodes assigned none failed =>
    cases stored.symm.trans found
    refine iff_of_false (fun same => ?_) fun unfailed => unfailed e failed
    -- the user was assigned, and the list that is stored now is empty
    have here := same id
    rw [Store.get_put_self, stored, Option.some.injEq] at here
    have before : d.assegnatari = a.utenti.map .string := decodes.assegnatari
    have after := assegnatari_writes (a.utenti.erase user) d
    rw [Delega.lista] at here none
    rw [here, before, none, List.map_nil, List.map_eq_nil_iff] at after
    exact List.ne_nil_of_mem (assigned user rfl) after

/-! ## The last assignee -/

def soloDiAnna : Store := Store.empty.put .todo "t" LeMieAttivita.urgente.toMap

theorem nodup_soloDiAnna : LeMieAttivita.urgente.toMap.assegnatari.Nodup :=
  List.nodup_singleton (Item.string "anna")

theorem failed_removal_iff_anna : ∃ calls final,
    Runs network (TodoRepository.removeUserFromTodo "t" "anna") soloDiAnna calls (.ok ()) final ∧
    TuttoONiente "anna" "t" soloDiAnna LeMieAttivita.urgente.toMap (.ok ()) final := by
  obtain ⟨final, run⟩ : ∃ final,
      Runs network (TodoRepository.removeUserFromTodo "t" "anna") soloDiAnna
        [⟨.get .todo "t", .ok (some LeMieAttivita.urgente.toMap)⟩,
          ⟨opUtenti "t" [], .ok ()⟩, ⟨.delete .todo "t", .ok ()⟩] (.ok ()) final :=
    ⟨_, .of_runAlone [.inr "", .inr "", .inr ""] rfl⟩
  have unfailed := failed_removal_iff rfl nodup_soloDiAnna run
  exact ⟨_, final, run, unfailed.mpr (by simp [NessunaFallita])⟩

/-- The deletion fails: the removal throws, and the task is stored without assignees. -/
theorem failed_removal_orphans_task : ∃ calls e final d,
    Runs network (TodoRepository.removeUserFromTodo "t" "anna") soloDiAnna calls (.error e) final ∧
    soloDiAnna.assegnato "t" "anna" ∧ final.get .todo "t" = some d ∧ d.assegnatari = [] ∧
    ¬ TuttoONiente "anna" "t" soloDiAnna LeMieAttivita.urgente.toMap (.error e) final := by
  refine ⟨_, _, _, _, .of_runAlone [.inr "", .inr "", .inl (.firebase "unavailable")] rfl,
    ⟨_, rfl, List.mem_cons_self⟩, rfl, rfl, fun same => ?_⟩
  cases congrFun (Option.some.inj (same "t")) "utenti"

end TeamSync.Tasks
