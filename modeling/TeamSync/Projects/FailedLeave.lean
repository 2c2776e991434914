import TeamSync.Projects.Abandonment
import TeamSync.Projects.Runs

/-! Leaves whose calls may fail, each way with its calls and what it leaves behind. -/

set_option autoImplicit false

namespace TeamSync.Projects

open Effects RepositoryProgetto

abbrev CallbackRisponde (calls : List (Exchange firestore Thrown)) : Prop :=
  ∀ eliminato e, ⟨.callback eliminato, .error e⟩ ∉ calls

theorem CallbackRisponde.out_ok {calls : List (Exchange firestore Thrown)}
    {reply out : Except Thrown Unit} (responds : CallbackRisponde calls) {eliminato : Bool}
    (called : ⟨.callback eliminato, reply⟩ ∈ calls) (told : out.isOk = reply.isOk) :
    out = .ok () := by
  cases reply with
  | error e => exact absurd called (responds eliminato e)
  | ok _ =>
    cases out with
    | error e => cases told
    | ok _ => rfl

/-! ## What is left behind -/

def avvisi (calls : List (Exchange firestore Thrown)) : List Bool :=
  calls.filterMap fun x =>
    match x.op with
    | .callback eliminato => some eliminato
    | _ => none

/-- An error leaves the projects as they were, with no callback. Without an error the
user is out, the project exists while it has participants, and the callback has been
called once, with whether it has been deleted. -/
def SenzaTracce (userId : Option String) (id : String) (s : Store)
    (calls : List (Exchange firestore Thrown)) (out : Except Thrown Unit) (final : Store) : Prop :=
  match out with
  | .error _ => (∀ key, final.get .progetti key = s.get .progetti key) ∧ avvisi calls = []
  | .ok _ => ∀ u, userId = some u → ¬ final.partecipa id u ∧
      (∃ d, s.get .progetti id = some d ∧
        (final.get .progetti id ≠ none ↔ (d.esce u).partecipanti ≠ [])) ∧
      ∃ eliminato, avvisi calls = [eliminato] ∧ (eliminato = true ↔ final.get .progetti id = none)

/-- After a removal that changes the project, the participants can be read, and a
deletion does not fail. -/
def NullaFallisce (u id : String) (s : Store) (calls : List (Exchange firestore Thrown)) : Prop :=
  ∀ d, s.get .progetti id = some d → ⟨opAbbandona u id, .ok ()⟩ ∈ calls → d.esce u ≠ d →
    (∀ item ∈ d.partecipanti, ∃ user, item = .string user) ∧
    (∀ e, ⟨.get .progetti id, .error e⟩ ∉ calls) ∧ ∀ e, ⟨.delete .progetti id, .error e⟩ ∉ calls

section
variable {u id : String} {s : Store} {d : Document} {calls : List (Exchange firestore Thrown)}
    {e : Thrown}

theorem partecipantiDi_esce_ok_iff : (∃ xs, partecipantiDi (d.esce u) = .ok xs) ↔
    ∀ item ∈ d.partecipanti, ∃ user, item = .string user := by
  have array : partecipantiDi (d.esce u) =
      (d.partecipanti.filter (· ≠ .string u)).mapM Value.itemString := by
    rw [partecipantiDi, Document.esce_field]
    rfl
  rw [array, Value.mapM_itemString_ok_iff]
  refine forall_congr' fun item => ⟨fun strings member => ?_, fun strings member => ?_⟩
  · by_cases same : item = .string u
    · exact ⟨u, same⟩
    · exact strings (List.mem_filter.mpr ⟨member, decide_eq_true same⟩)
  · exact strings (List.mem_filter.mp member).1

theorem partecipanti_esce {xs : List String} (read : partecipantiDi (d.esce u) = .ok xs) :
    (d.esce u).partecipanti = xs.map .string := partecipanti_of_partecipantiDi read

theorem senzaTracce_rimosso_iff (found : s.get .progetti id = some d) (silent : avvisi calls = []) :
    SenzaTracce (some u) id s calls (.error e) (s.put .progetti id (d.esce u)) ↔ d.esce u = d := by
  constructor
  · rintro ⟨same, -⟩
    have here := same id
    rw [Store.get_put_self, found] at here
    exact Option.some.inj here
  · intro same
    rw [same]
    exact ⟨Store.get_put_same found .progetti, silent⟩

theorem nullaFallisce_rimosso_iff (found : s.get .progetti id = some d)
    (removed : ⟨opAbbandona u id, .ok ()⟩ ∈ calls)
    (failed : ¬ ((∀ item ∈ d.partecipanti, ∃ user, item = .string user) ∧
      (∀ e, ⟨.get .progetti id, .error e⟩ ∉ calls) ∧
        ∀ e, ⟨.delete .progetti id, .error e⟩ ∉ calls)) :
    NullaFallisce u id s calls ↔ d.esce u = d := by
  constructor
  · intro succeeds
    by_contra changed
    exact failed (succeeds d found removed changed)
  · rintro same d' found' - changed
    cases found.symm.trans found'
    exact absurd same changed

theorem nullaFallisce_letto {xs : List String} (found : s.get .progetti id = some d)
    (read : partecipantiDi (d.esce u) = .ok xs) (reads : ∀ e, ⟨.get .progetti id, .error e⟩ ∉ calls)
    (deletions : ∀ e, ⟨.delete .progetti id, .error e⟩ ∉ calls) : NullaFallisce u id s calls := by
  intro d' found' _ _
  cases found.symm.trans found'
  exact ⟨partecipantiDi_esce_ok_iff.mp ⟨xs, read⟩, reads, deletions⟩

theorem senzaTracce_rimasto {xs : List String} (found : s.get .progetti id = some d)
    (read : partecipantiDi (d.esce u) = .ok xs) (others : xs ≠ []) (told : avvisi calls = [false]) :
    SenzaTracce (some u) id s calls (.ok ()) (s.put .progetti id (d.esce u)) := by
  have left : (d.esce u).partecipanti ≠ [] := by
    rw [partecipanti_esce read]
    exact fun none => others (List.map_eq_nil_iff.mp none)
  rintro _ ⟨⟩
  refine ⟨?_, ⟨d, found, ?_⟩, false, told, ?_⟩
  · rw [Store.partecipa_put, if_pos rfl]
    exact fun member => (Document.partecipa_esce.mp member).2 rfl
  · rw [Store.get_put_self]
    exact iff_of_true (Option.some_ne_none _) left
  · rw [Store.get_put_self]
    exact iff_of_false nofun (Option.some_ne_none _)

theorem senzaTracce_eliminato (found : s.get .progetti id = some d)
    (none : (d.esce u).partecipanti = []) (told : avvisi calls = [true]) :
    SenzaTracce (some u) id s calls (.ok ())
      ((s.put .progetti id (d.esce u)).erase .progetti id) := by
  rintro _ ⟨⟩
  refine ⟨?_, ⟨d, found, ?_⟩, true, told, ?_⟩
  · rw [Store.partecipa_erase]
    exact fun member => member.1 rfl
  · rw [Store.get_erase_self]
    exact iff_of_false (fun stored => stored rfl) fun left => left none
  · rw [Store.get_erase_self]
    exact iff_of_true rfl rfl

end

/-- A leave leaves no trace when it fails, and otherwise what it says, just when nothing
fails after its removal. -/
theorem failed_leave_iff {userId : Option String} {id : String} {s final : Store}
    {calls : List (Exchange firestore Thrown)} {out : Except Thrown Unit}
    (run : Runs network (abbandonaProgetto userId id) s calls out final)
    (responds : CallbackRisponde calls) :
    SenzaTracce userId id s calls out final ↔
      ∀ u, userId = some u → NullaFallisce u id s calls := by
  cases userId with
  | none =>
    obtain ⟨rfl, rfl, rfl⟩ := runs_done_iff.mp run
    exact ⟨fun _ _ => nofun, fun _ _ => nofun⟩
  | some u =>
    simp only [Option.some.injEq, forall_eq']
    have removed : ∀ {d rest}, ⟨opAbbandona u id, .ok ()⟩ ∈ finoAllaRimozione u id d rest :=
      List.mem_cons_of_mem _ List.mem_cons_self
    cases runs_abbandonaProgetto run with
    | nonTrovato =>
      refine iff_of_true ⟨fun _ => rfl, rfl⟩ fun d _ member => ?_
      simp at member
    | nonRimosso =>
      refine iff_of_true ⟨fun _ => rfl, rfl⟩ fun d _ member => ?_
      simp at member
    | nonRiletto found =>
      rw [senzaTracce_rimosso_iff found rfl, nullaFallisce_rimosso_iff found removed]
      rintro ⟨-, read, -⟩
      exact read _ (List.mem_cons_of_mem _ (List.mem_cons_of_mem _ List.mem_cons_self))
    | illeggibile found unread =>
      rw [senzaTracce_rimosso_iff found rfl, nullaFallisce_rimosso_iff found removed]
      rintro ⟨strings, -⟩
      obtain ⟨xs, read⟩ := partecipantiDi_esce_ok_iff.mpr strings
      exact unread xs read
    | @nonEliminato d e _ found read =>
      rw [senzaTracce_rimosso_iff found rfl, nullaFallisce_rimosso_iff found removed]
      rintro ⟨-, -, deleted⟩
      exact deleted e (by simp)
    | rimasto found read others told =>
      cases responds.out_ok (List.mem_of_getLast? rfl) told
      exact iff_of_true (senzaTracce_rimasto found read others rfl)
        (nullaFallisce_letto found read (by simp) (by simp))
    | eliminato found read told =>
      cases responds.out_ok (List.mem_of_getLast? rfl) told
      exact iff_of_true (senzaTracce_eliminato found (partecipanti_esce read) rfl)
        (nullaFallisce_letto found read (by simp) (by simp))

/-! ## Anna, the last participant -/

theorem failed_leave_iff_anna : ∃ calls final,
    Runs network (abbandonaProgetto (some "anna") "p") storeConProgetto calls (.ok ()) final ∧
    SenzaTracce (some "anna") "p" storeConProgetto calls (.ok ()) final := by
  have run : Runs network (abbandonaProgetto (some "anna") "p") storeConProgetto
      (finoAllaLettura "anna" "p" (creaProgettoMap progettoDiAnna) [⟨.delete .progetti "p", .ok ()⟩,
        ⟨.callback true, .ok ()⟩]) (.ok ()) _ :=
    .of_runAlone [.inr "", .inr "", .inr "", .inr "", .inr ""] rfl
  refine ⟨_, _, run, (failed_leave_iff run (by simp [CallbackRisponde])).mpr ?_⟩
  rintro _ ⟨⟩
  have read : partecipantiDi ((creaProgettoMap progettoDiAnna).esce "anna") = .ok [] := rfl
  exact nullaFallisce_letto rfl read (by simp) (by simp)

/-- The deletion fails: Anna is told that her leave has failed, and the project is left
without participants. -/
theorem failed_leave_leaves_trace : ∃ calls e final d,
    Runs network (abbandonaProgetto (some "anna") "p") storeConProgetto calls (.error e) final ∧
    CallbackRisponde calls ∧ storeConProgetto.partecipa "p" "anna" ∧
    final.get .progetti "p" = some d ∧ d.partecipanti = [] ∧
    ¬ SenzaTracce (some "anna") "p" storeConProgetto calls (.error e) final := by
  refine ⟨_, _, _, _,
    .of_runAlone [.inr "", .inr "", .inr "", .inl (.firebase "unavailable")] rfl,
    by simp [CallbackRisponde], ⟨_, rfl, List.mem_cons_self⟩, rfl, rfl, ?_⟩
  rintro ⟨same, -⟩
  cases congrFun (Option.some.inj (same "p")) "partecipanti"

end TeamSync.Projects
