import Mathlib.Data.Fintype.EquivFin
import TeamSync.Cloud.Document
import TeamSync.Library.Outcome
import TeamSync.Library.Collection
import TeamSync.Library.Interleaving

/-! The shared database, call by call.

Each call is one atomic step. `add` stores under an identifier never used
before; `update` fails on a missing document and creates nothing; `set`
replaces the whole document and creates a missing one; deleting a missing
document changes nothing. A query's answer has no promised order.
-/

set_option autoImplicit false

namespace TeamSync

open Effects

inductive CollectionName where
  | progetti
  | todo
  | utenti
  deriving DecidableEq, Repr

inductive Filter where
  | isEqualTo (field : String) (v : Value)
  | arrayContains (field : String) (item : Item)
  deriving DecidableEq, Repr

def Filter.holds (d : Document) : Filter → Bool
  | .isEqualTo field v => d field = some v
  | .arrayContains field item => item ∈ FieldWrite.elements (d field)

inductive Op where
  | get (c : CollectionName) (id : String)
  | query (c : CollectionName) (filters : List Filter)
  | add (c : CollectionName) (data : Document)
  | set (c : CollectionName) (id : String) (data : Document)
  | update (c : CollectionName) (id : String) (data : List (String × FieldWrite))
  | delete (c : CollectionName) (id : String)
  | callback (isProgettoEliminato : Bool)
  | onSuccess (id : String)

abbrev Op.Answer : Op → Type
  | .get _ _ => Option Document
  | .query _ _ => List (String × Document)
  | .add _ _ => String
  | _ => Unit

abbrev firestore : Interface := ⟨Op, Op.Answer⟩

abbrev App := Process firestore Thrown

abbrev Store := CollectionName → Collection String Document

def Store.empty : Store := fun _ => Collection.empty

def Store.get (s : Store) (c : CollectionName) (id : String) : Option Document := (s c).get id

def Store.put (s : Store) (c : CollectionName) (id : String) (d : Document) : Store :=
  Function.update s c ((s c).put id d)

def Store.erase (s : Store) (c : CollectionName) (id : String) : Store :=
  Function.update s c ((s c).erase id)

@[simp] theorem Store.get_put_self (s : Store) (c : CollectionName) (id : String) (d : Document) :
    (s.put c id d).get c id = some d := by simp [put, get]

theorem Store.get_put (s : Store) (c other : CollectionName) (id key : String) (d : Document) :
    (s.put c id d).get other key = if other = c ∧ key = id then some d else s.get other key := by
  by_cases same : other = c
  · subst same
    simp [put, get, Collection.get_put]
  · simp [put, get, same]

theorem Store.get_erase (s : Store) (c other : CollectionName) (id key : String) :
    (s.erase c id).get other key = if other = c ∧ key = id then none else s.get other key := by
  by_cases same : other = c
  · subst same
    simp [erase, get, Collection.get_erase]
  · simp [erase, get, same]

theorem Store.get_put_other {s : Store} {c other : CollectionName} {id key : String} {d : Document}
    (differ : other ≠ c) : (s.put c id d).get other key = s.get other key := by
  rw [Store.get_put, if_neg fun same => differ same.1]

theorem Store.get_put_of_ne {s : Store} {c : CollectionName} {id key : String} {d : Document}
    (differ : key ≠ id) :
    (s.put c id d).get c key = s.get c key := by
  rw [Store.get_put, if_neg fun same => differ same.2]

@[simp] theorem Store.get_erase_self (s : Store) (c : CollectionName) (id : String) :
    (s.erase c id).get c id = none := by
  rw [Store.get_erase, if_pos ⟨rfl, rfl⟩]

theorem Store.get_erase_other {s : Store} {c other : CollectionName} {id key : String}
    (differ : other ≠ c) :
    (s.erase c id).get other key = s.get other key := by
  rw [Store.get_erase, if_neg fun same => differ same.1]

theorem Store.get_erase_of_ne {s : Store} {c : CollectionName} {id key : String}
    (differ : key ≠ id) :
    (s.erase c id).get c key = s.get c key := by
  rw [Store.get_erase, if_neg fun same => differ same.2]

theorem Store.get_erase_put {s : Store} {c other : CollectionName} {id key : String}
    {d : Document} : ((s.put c id d).erase c id).get other key = (s.erase c id).get other key := by
  rw [Store.get_erase, Store.get_erase, Store.get_put]
  split <;> rfl

theorem Store.get_put_same {s : Store} {c : CollectionName} {id : String} {d : Document}
    (stored : s.get c id = some d) (other : CollectionName) (key : String) :
    (s.put c id d).get other key = s.get other key := by
  rw [Store.get_put]
  split
  · next same => rw [same.1, same.2, stored]
  · rfl

def Store.Used (s : Store) (c : CollectionName) (id : String) : Prop := id ∈ (s c).used

theorem Store.used_of_get {s : Store} {c : CollectionName} {id : String} {d : Document}
    (found : s.get c id = some d) : s.Used c id := Collection.used_of_get found

theorem Store.Used.put {s : Store} {c other : CollectionName} {id key : String} {d : Document}
    (used : s.Used c id) : (s.put other key d).Used c id := by
  by_cases same : c = other
  · subst same
    simp [Store.Used, Store.put, Finset.mem_insert_of_mem used]
  · simpa [Store.Used, Store.put, same] using used

theorem Store.Used.erase {s : Store} {c other : CollectionName} {id key : String}
    (used : s.Used c id) :
    (s.erase other key).Used c id := by
  by_cases same : c = other
  · subst same
    simpa [Store.Used, Store.erase] using used
  · simpa [Store.Used, Store.erase, same] using used

/-- The reply to a call and the store after it; `newId` is the identifier an `add` gets. -/
def exec (newId : String) (op : Op) (s : Store) : Option (Reply firestore Thrown op × Store) :=
  match op with
  | .get c id => some (.ok (s.get c id), s)
  | .query c filters => some (.ok ((s c).select fun d => filters.all (Filter.holds d)), s)
  | .add c data => if newId ∈ (s c).used then none else some (.ok newId, s.put c newId data)
  | .set c id data => some (.ok (), s.put c id data)
  | .update c id data =>
    match s.get c id with
    | some d => some (.ok (), s.put c id (d.writes data))
    | none => some (.error (.firebase "not-found"), s)
  | .delete c id => some (.ok (), s.erase c id)
  | .callback _ => some (.ok (), s)
  | .onSuccess _ => some (.ok (), s)

/-- The database when no call fails for a reason of its own. -/
def service : Handler firestore Thrown Store := ⟨String, exec⟩

/-- The database of a network on which any call may fail. -/
abbrev network : Handler firestore Thrown Store := service.faulty

def Op.isRead : Op → Bool
  | .get _ _ | .query _ _ => true
  | _ => false

def Op.isWrite : Op → Bool
  | .add _ _ | .set _ _ _ | .update _ _ _ | .delete _ _ => true
  | _ => false

theorem Op.isWrite_of_isRead {op : Op} (read : op.isRead = true) : op.isWrite = false := by
  cases op <;> first | rfl | cases read

section
variable {choice : network.Choice} {s final : Store} {c : CollectionName} {id : String}

theorem network_cases {op : Op} {reply : Reply firestore Thrown op}
    (answered : network.exec choice op s = some (reply, final)) :
    (∃ e, reply = .error e ∧ final = s) ∨ ∃ newId, exec newId op s = some (reply, final) := by
  cases choice with
  | inl e =>
    cases answered
    exact .inl ⟨e, rfl, rfl⟩
  | inr newId => exact .inr ⟨newId, answered⟩

theorem network_of_not_isWrite {op : Op} {reply : Reply firestore Thrown op}
    (quiet : op.isWrite = false)
    (answered : network.exec choice op s = some (reply, final)) : final = s := by
  rcases network_cases answered with ⟨_, -, same⟩ | ⟨newId, answered⟩
  · exact same
  · cases op <;> cases quiet <;> cases answered <;> rfl

theorem network_get {reply : Reply firestore Thrown (.get c id)}
    (answered : network.exec choice (.get c id) s = some (reply, final)) :
    final = s ∧ ∀ found, reply = .ok found → found = s.get c id := by
  rcases network_cases answered with ⟨e, rfl, same⟩ | ⟨newId, answered⟩
  · exact ⟨same, fun _ read => by cases read⟩
  · cases answered
    exact ⟨rfl, fun _ read => by cases read; rfl⟩

theorem network_query {filters : List Filter} {docs : List (String × Document)}
    (answered : network.exec choice (.query c filters) s = some (.ok docs, final)) {d : Document}
    (listed : (id, d) ∈ docs) : s.get c id = some d := by
  rcases network_cases answered with ⟨e, failed, -⟩ | ⟨newId, answered⟩
  · cases failed
  · cases answered
    exact (Collection.mem_select.mp listed).1

theorem network_update {data : List (String × FieldWrite)}
    {reply : Reply firestore Thrown (.update c id data)}
    (answered : network.exec choice (.update c id data) s = some (reply, final)) :
    (∃ e, reply = .error e ∧ final = s) ∨
      ∃ d, s.get c id = some d ∧ reply = .ok () ∧ final = s.put c id (d.writes data) := by
  rcases network_cases answered with failed | ⟨newId, answered⟩
  · exact .inl failed
  · simp only [exec] at answered
    split at answered
    · next d found =>
      cases answered
      exact .inr ⟨d, found, rfl, rfl⟩
    · cases answered
      exact .inl ⟨_, rfl, rfl⟩

theorem network_add {data : Document} {reply : Reply firestore Thrown (.add c data)}
    (answered : network.exec choice (.add c data) s = some (reply, final)) :
    (∃ e, reply = .error e ∧ final = s) ∨
      ∃ newId, newId ∉ (s c).used ∧ reply = .ok newId ∧ final = s.put c newId data := by
  rcases network_cases answered with failed | ⟨newId, answered⟩
  · exact .inl failed
  · simp only [exec] at answered
    split at answered
    · cases answered
    · next fresh =>
      cases answered
      exact .inr ⟨newId, fresh, rfl, rfl⟩

theorem network_set {data : Document} {reply : Reply firestore Thrown (.set c id data)}
    (answered : network.exec choice (.set c id data) s = some (reply, final)) :
    (∃ e, reply = .error e ∧ final = s) ∨ reply = .ok () ∧ final = s.put c id data := by
  rcases network_cases answered with failed | ⟨newId, answered⟩
  · exact .inl failed
  · cases answered
    exact .inr ⟨rfl, rfl⟩

theorem network_delete {reply : Reply firestore Thrown (.delete c id)}
    (answered : network.exec choice (.delete c id) s = some (reply, final)) :
    (∃ e, reply = .error e ∧ final = s) ∨ reply = .ok () ∧ final = s.erase c id := by
  rcases network_cases answered with failed | ⟨newId, answered⟩
  · exact .inl failed
  · cases answered
    exact .inr ⟨rfl, rfl⟩

theorem Store.Used.network {op : Op} {reply : Reply firestore Thrown op} (used : s.Used c id)
    (answered : network.exec choice op s = some (reply, final)) : final.Used c id := by
  cases op with
  | get _ _ | query _ _ | callback _ | onSuccess _ =>
    cases network_of_not_isWrite rfl answered
    exact used
  | add _ _ =>
    rcases network_add answered with ⟨-, -, rfl⟩ | ⟨-, -, -, rfl⟩
    · exact used
    · exact used.put
  | set _ _ _ =>
    rcases network_set answered with ⟨-, -, rfl⟩ | ⟨-, rfl⟩
    · exact used
    · exact used.put
  | update _ _ _ =>
    rcases network_update answered with ⟨-, -, rfl⟩ | ⟨-, -, -, rfl⟩
    · exact used
    · exact used.put
  | delete _ _ =>
    rcases network_delete answered with ⟨-, -, rfl⟩ | ⟨-, rfl⟩
    · exact used
    · exact used.erase

end

def get (c : CollectionName) (id : String) : App (Option Document) :=
  .perform (I := firestore) (.get c id)

def query (c : CollectionName) (filters : List Filter) : App (List (String × Document)) :=
  .perform (I := firestore) (.query c filters)

def add (c : CollectionName) (data : Document) : App String :=
  .perform (I := firestore) (.add c data)

def set (c : CollectionName) (id : String) (data : Document) : App Unit :=
  .perform (I := firestore) (.set c id data)

def update (c : CollectionName) (id : String) (data : List (String × FieldWrite)) : App Unit :=
  .perform (I := firestore) (.update c id data)

def delete (c : CollectionName) (id : String) : App Unit := .perform (I := firestore) (.delete c id)

def callback (isProgettoEliminato : Bool) : App Unit :=
  .perform (I := firestore) (.callback isProgettoEliminato)

def onSuccess (id : String) : App Unit := .perform (I := firestore) (.onSuccess id)

theorem service_total (op : Op) (s : Store) :
    ∃ choice reply mid, service.exec choice op s = some (reply, mid) := by
  cases op with
  | add c data =>
    obtain ⟨newId, fresh⟩ := Infinite.exists_notMem_finset (s c).used
    exact ⟨newId, .ok newId, _, if_neg fresh⟩
  | update c id data =>
    cases found : s.get c id with
    | some d => exact ⟨"", .ok (), s.put c id (d.writes data), by simp only [service, exec, found]⟩
    | none => exact ⟨"", .error (.firebase "not-found"), s, by simp only [service, exec, found]⟩
  | _ => exact ⟨"", _, _, rfl⟩

theorem yields_perform {op : Op} {answer : op.Answer} {s t : Store}
    (executed : ∀ newId, exec newId op s = some (.ok answer, t)) :
    Yields service (Process.perform (I := firestore) op) s (.ok answer) t := by
  refine .call "" (executed "") (fun choice other final answered => ?_) (.done _ t)
  cases (executed choice).symm.trans answered
  exact ⟨rfl, rfl⟩

theorem answers_get (c : CollectionName) (id : String) (s : Store) :
    Answers service (get c id) s (s.get c id) :=
  yields_perform fun _ => rfl

theorem yields_update {c : CollectionName} {id : String} {d : Document} {s : Store}
    (found : s.get c id = some d) (data : List (String × FieldWrite)) :
    Yields service (update c id data) s (.ok ()) (s.put c id (d.writes data)) :=
  yields_perform fun newId => by simp only [exec, found]

def Store.trovati (s : Store) (c : CollectionName) (filters : List Filter) :
    List (String × Document) :=
  (s c).select fun d => filters.all (Filter.holds d)

theorem Store.mem_trovati {s : Store} {c : CollectionName} {filters : List Filter} {id : String}
    {d : Document} :
    (id, d) ∈ s.trovati c filters ↔ s.get c id = some d ∧ ∀ f ∈ filters, f.holds d = true := by
  rw [trovati, Collection.mem_select, List.all_eq_true, get]

theorem Store.trovati_pair (s : Store) (c : CollectionName) (f g : Filter) :
    s.trovati c [f, g] = (s.trovati c [f]).filter fun doc => g.holds doc.2 := by
  simp only [trovati, Collection.select, List.filter_filter]
  exact List.filter_congr fun doc _ => by simp [Bool.and_comm]

theorem network_query_ok {choice : network.Choice} {s final : Store} {c : CollectionName}
    {filters : List Filter} {docs : List (String × Document)}
    (answered : network.exec choice (.query c filters) s = some (.ok docs, final)) :
    docs = s.trovati c filters := by
  rcases network_cases answered with ⟨e, failed, -⟩ | ⟨newId, answered⟩
  · cases failed
  · cases answered
    rfl

theorem answers_call_query {A : Type} {c : CollectionName} {filters : List Filter} {s : Store}
    {next : Reply firestore Thrown (.query c filters) → App A} {a : A}
    (rest : Answers service (next (.ok (s.trovati c filters))) s a) :
    Answers service (.call (I := firestore) (.query c filters) next) s a := by
  refine .call "" rfl (fun _ _ _ answered => ?_) rest
  cases answered
  exact ⟨rfl, rfl⟩

theorem answers_query (c : CollectionName) (filters : List Filter) (s : Store) :
    Answers service (query c filters) s (s.trovati c filters) :=
  answers_call_query (.done _ s)

end TeamSync
