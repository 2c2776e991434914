import TeamSync.Cloud.Locality
import TeamSync.Projects.Abandonment
import TeamSync.Team.Deletion

/-! Calls on different documents, made at the same time. -/

set_option autoImplicit false

namespace TeamSync.Team

open Effects Projects Tasks

/-- The only document that a call reads and writes. The other calls search a
collection, or add to one. -/
def TeamCall.documento : TeamCall → Option Posto
  | .suProgetto (.membro (.abbandona _ progettoId)) => some (.progetti, progettoId)
  | .updateTodo _ _ _ id .. | .completeTodo id _ | .delega id _ | .deleteTodo id => some (.todo, id)
  | .updateDataScadenzaTodo _ attivita _ => attivita.id.map fun id => (.todo, id)
  | _ => none

abbrev SoloSu {A : Type} (posto : Posto) (p : App A) : Prop :=
  p.OnlyCalls fun op : Op => op.Su posto

section
variable {A : Type} {posto : Posto}

theorem soloSu_callback (eliminato : Bool) : SoloSu posto (callback eliminato) :=
  .perform (I := firestore) trivial

theorem soloSu_abbandonaProgetto (userId : Option String) (progettoId : String) :
    SoloSu (.progetti, progettoId) (RepositoryProgetto.abbandonaProgetto userId progettoId) := by
  have read : SoloSu (.progetti, progettoId)
      (RepositoryProgetto.getPartecipantiDelProgetto progettoId) := by
    refine .bind (.perform (I := firestore) rfl) fun found => ?_
    cases found with
    | none => trivial
    | some d => exact .ofExcept _
  have deleted : SoloSu (.progetti, progettoId) (RepositoryProgetto.eliminaProgetto progettoId) :=
    .rescue (.perform (I := firestore) rfl) fun _ => trivial
  cases userId with
  | none => trivial
  | some user =>
    refine .rescue (.bind (.perform (I := firestore) rfl) fun found => ?_) fun _ => trivial
    dsimp only
    split
    · trivial
    · refine .bind (.perform (I := firestore) rfl) fun _ => .bind read fun listaPartecipanti => ?_
      split
      · exact .bind deleted fun _ => soloSu_callback true
      · exact soloSu_callback false

theorem soloSu_delega (id : String) (call : Delega) : SoloSu (.todo, id) (call.process id) := by
  cases call with
  | aggiungi user =>
    refine .rescue (.bind (.perform (I := firestore) rfl) fun found => ?_) fun _ => trivial
    exact .bind (.ofExcept _) fun a => .perform (I := firestore) rfl
  | rimuovi user =>
    refine .rescue (.bind (.perform (I := firestore) rfl) fun found => ?_) fun _ => trivial
    refine .bind (.ofExcept _) fun a => ?_
    have deleted : SoloSu (.todo, id) (TodoRepository.deleteTodo id) :=
      .rescue (.perform (I := firestore) rfl) fun _ => trivial
    split
    · refine .bind (.perform (I := firestore) rfl) fun _ => ?_
      split
      · exact deleted
      · trivial
    · trivial

theorem soloSu_updateTodo (zone : Zone) (oggi now : DateTime) (id titolo descrizione : String)
    (dataScadenza dataCreazione : DateTime) (progetto : String) (utenti : List String)
    (completato : Bool) (priorita : Priorita) :
    SoloSu (.todo, id) (LeMieAttivitaViewModel.updateTodo zone oggi now id titolo descrizione
      dataScadenza dataCreazione progetto utenti completato priorita) := by
  unfold LeMieAttivitaViewModel.updateTodo
  split
  · trivial
  split
  · trivial
  · exact .rescue (.bind (.rescue (.perform (I := firestore) rfl) fun _ => trivial)
      fun _ => trivial) fun _ => trivial

theorem soloSu_updateDataScadenzaTodo (now : DateTime) {attivita : LeMieAttivita} {id : String}
    (named : attivita.id = some id) (dataScadenzaProgetto : DateTime) :
    SoloSu (.todo, id) (LeMieAttivitaViewModel.updateDataScadenzaTodo now attivita
      dataScadenzaProgetto) := by
  unfold LeMieAttivitaViewModel.updateDataScadenzaTodo
  simp only [named]
  exact .rescue (.bind (.rescue (.perform (I := firestore) rfl) fun _ => trivial)
    fun _ => trivial) fun _ => trivial

theorem soloSu_process {call : TeamCall} (su : call.documento = some posto) :
    SoloSu posto call.process := by
  match call with
  | .suProgetto (.membro (.abbandona userId progettoId)) =>
    cases su
    exact .bind (.bind (soloSu_abbandonaProgetto userId progettoId) fun _ => trivial)
      fun _ => trivial
  | .updateTodo .. =>
    cases su
    exact .bind (soloSu_updateTodo ..) fun _ => trivial
  | .updateDataScadenzaTodo now attivita dataScadenzaProgetto =>
    obtain ⟨id, found, rfl⟩ := Option.map_eq_some_iff.mp su
    exact .bind (soloSu_updateDataScadenzaTodo now found dataScadenzaProgetto) fun _ => trivial
  | .completeTodo id completato =>
    cases su
    exact .bind (.rescue (.bind (.rescue (.perform (I := firestore) rfl) fun _ => trivial)
      fun _ => trivial) fun _ => trivial) fun _ => trivial
  | .delega id call =>
    cases su
    exact soloSu_delega id call
  | .deleteTodo id =>
    cases su
    exact .bind (.rescue (.bind (.rescue (.perform (I := firestore) rfl) fun _ => trivial)
      fun _ => trivial) fun _ => trivial) fun _ => trivial
  | .suProgetto (.membro (.unisciti ..)) | .suProgetto (.aggiorna ..) | .addProgetto .. |
    .getAttivitaByProgettoId .. | .addTodo .. => cases su

end

/-- Calls that have ended, each on a document of its own, might as well have been
made one after another, in any order: the same replies, the same outcomes and the
same documents. -/
theorem different_documents_in_turn {ι : Type} [DecidableEq ι] {calls : ι → TeamCall}
    {documento : ι → Posto} {s : Store} {guard : Config ι firestore Thrown Store Unit → ι → Prop}
    {c : Config ι firestore Thrown Store Unit} (reach : Reaches network guard (start s calls) c)
    (su : ∀ i, (calls i).documento = some (documento i)) (distinct : Function.Injective documento)
    {outcome : ι → Except Thrown Unit} (ended : ∀ i, c.pool i = .ofExcept (outcome i))
    {order : List ι} (once : order.Nodup) (everyone : ∀ entry ∈ c.trace, entry.1 ∈ order) :
    ∃ final, InTurn network (fun i => (calls i).process) c.own outcome s order final ∧
      ∀ collection id, final.get collection id = c.store.get collection id := by
  obtain ⟨final, inTurn, same⟩ := reach.inTurn service_local.faulty distinct
    (fun i => soloSu_process (su i)) ended once everyone
  exact ⟨final, inTurn, fun collection id => congrFun same (collection, id)⟩

/-! ## A leave while a task is handed on -/

def progettoETask : Store := storeConProgetto.put .todo "t" attivitaDiAnna.toMap

def assegnaEAbbandona : Bool → TeamCall
  | false => .delega "t" (.aggiungi "bruno")
  | true => .suProgetto (.membro (.abbandona (some "anna") "p"))

def documentoDi : Bool → Posto
  | false => (.todo, "t")
  | true => (.progetti, "p")

def alternati : List (Bool × network.Choice) :=
  [(false, .inr ""), (true, .inr ""), (true, .inr ""), (false, .inl (.firebase "unavailable")),
    (true, .inr ""), (true, .inr ""), (true, .inr "")]

theorem different_documents_in_turn_alternati : ∃ c : Config Bool firestore Thrown Store Unit,
    (start progettoETask assegnaEAbbandona).run network alternati = some c ∧
    ∃ outcome final, InTurn network (fun i => (assegnaEAbbandona i).process) c.own outcome
      progettoETask [true, false] final ∧ final.get .progetti "p" = none := by
  obtain ⟨c, ran⟩ : ∃ c, (start progettoETask assegnaEAbbandona).run network alternati = some c :=
    ⟨_, rfl⟩
  have reach : Reaches network Config.anyStep (start progettoETask assegnaEAbbandona) c :=
    .of_run alternati ran (Config.along_anyStep _ _)
  have ended : ∀ i, ∃ out, c.pool i = .ofExcept out := by
    cases ran
    rintro (_ | _)
    · exact ⟨.error _, rfl⟩
    · exact ⟨.ok _, rfl⟩
  choose outcome ended using ended
  have su : ∀ i, (assegnaEAbbandona i).documento = some (documentoDi i) := by
    rintro (_ | _) <;> rfl
  have distinct : Function.Injective documentoDi := by
    rintro (_ | _) (_ | _) <;> decide
  have once : [true, false].Nodup := by decide
  obtain ⟨final, inTurn, same⟩ := different_documents_in_turn reach su distinct ended once
    fun entry _ => by cases entry.1 <;> decide
  refine ⟨c, ran, outcome, final, inTurn, ?_⟩
  rw [same]
  cases ran
  rfl

end TeamSync.Team
