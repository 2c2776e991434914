import TeamSync.Team.DifferentDocuments
import TeamSync.Team.Refinement

/-! Clients that work in rounds, and the workspace that their database holds.

In a round either one call is made alone, or several are made at the same time, each
on a document of its own and interleaved in any way.
-/

set_option autoImplicit false

namespace TeamSync.Team

open Effects Projects Tasks

section
variable {history : Storia} {s t : Store} {w w' : Lavoro} {id : String} {d : Document}

theorem DallePagine.later {call : TeamCall} (allowed : DallePagine history s call)
    (entry : Completed TeamCall firestore Thrown) : DallePagine (entry :: history) t call := by
  have letto : ∀ {id d}, Letto history id d → Letto (entry :: history) id d :=
    fun ⟨earlier, member, shown⟩ => ⟨earlier, List.mem_cons_of_mem _ member, shown⟩
  match call with
  | .addProgetto .. => exact allowed
  | .updateTodo .. =>
    obtain ⟨d, a, shown, rest⟩ := allowed
    exact ⟨d, a, letto shown, rest⟩
  | .updateDataScadenzaTodo .. =>
    obtain ⟨id, d, shown, rest⟩ := allowed
    exact ⟨id, d, letto shown, rest⟩
  | .suProgetto _ | .completeTodo .. | .delega .. | .deleteTodo _ | .getAttivitaByProgettoId .. |
    .addTodo .. => trivial

theorem Narrata.congr (told : Narrata history s)
    (same : ∀ collection id, t.get collection id = s.get collection id) : Narrata history t := by
  obtain ⟨w, told, rep, shown⟩ := told
  exact ⟨w, told, rep.congr same, shown⟩

theorem Narrata.inTurn {ι : Type} {calls : ι → TeamCall}
    {exchanges : ι → List (Exchange firestore Thrown)} {outcome : ι → Except Thrown Unit}
    {order : List ι} {final : Store}
    (inTurn : InTurn network (fun i => (calls i).process) exchanges outcome s order final)
    (told : Narrata history s) (allowed : ∀ i ∈ order, DallePagine history t (calls i))
    (whole : ∀ i ∈ order, Compiuta (exchanges i)) :
    Narrata ((order.map fun i => ⟨calls i, exchanges i⟩).reverse ++ history) final := by
  induction inTurn generalizing history with
  | nil => exact told
  | @cons i rest s mid final run _ ih =>
    obtain ⟨first, others⟩ := List.forall_mem_cons.mp allowed
    obtain ⟨here, after⟩ := List.forall_mem_cons.mp whole
    have next : Narrata (⟨calls i, exchanges i⟩ :: history) mid := told.call first run here
    have later := ih next (fun j member => (others j member).later _) after
    rwa [List.map_cons, List.reverse_cons, List.append_assoc]

/-! ## The workspace of a database -/

theorem DiGruppo.unique {g g' : Gruppo String} (di : DiGruppo id d g) (di' : DiGruppo id d g') :
    g = g' := by
  obtain ⟨p, written, codice, nome, concluso, membri⟩ := di
  obtain ⟨p', written', codice', nome', concluso', membri'⟩ := di'
  cases written.1.unique written'.1
  cases g
  cases g'
  simp only at codice nome concluso membri codice' nome' concluso' membri'
  subst codice nome concluso membri
  subst codice' nome' concluso' membri'
  rfl

theorem DiCompito.unique {x y : Compito String String} (di : DiCompito id d x)
    (di' : DiCompito id d y) : x = y := by
  obtain ⟨a, written, gruppo, titolo, completato, assegnatari⟩ := di
  obtain ⟨b, written', gruppo', titolo', completato', assegnatari'⟩ := di'
  cases written.1.unique written'.1
  cases x
  cases y
  simp only at gruppo titolo completato assegnatari gruppo' titolo' completato' assegnatari'
  subst gruppo titolo completato assegnatari
  subst gruppo' titolo' completato' assegnatari'
  rfl

theorem rel_unique {A B : Type} {r : A → B → Prop} {a : Option A} {b b' : Option B}
    (first : Option.Rel r a b) (second : Option.Rel r a b')
    (functional : ∀ {x y y'}, r x y → r x y' → y = y') : b = b' := by
  cases first with
  | none =>
    cases second
    rfl
  | some holds =>
    cases second with
    | some holds' => rw [functional holds holds']

/-- A database holds one workspace at most. -/
theorem Rappresenta.unique (rep : Rappresenta s w) (rep' : Rappresenta s w') : w = w' := by
  cases w
  cases w'
  simp only [Spazio.mk.injEq]
  exact ⟨funext fun id => rel_unique (rep.gruppi id) (rep'.gruppi id) DiGruppo.unique,
    funext fun id => rel_unique (rep.compiti id) (rep'.compiti id) DiCompito.unique⟩

end

end TeamSync.Team
