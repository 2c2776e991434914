import TeamSync.Cloud.Service
import TeamSync.Library.Moments

/-! Documents that are stored or have been read.

What a program writes may come from a document that it has read long before. A
property of all the documents that are known, and not only of the stored ones,
follows from what one write makes of them.
-/

set_option autoImplicit false

namespace TeamSync

open Effects

section
variable {ι A : Type} [DecidableEq ι] {pool : ι → App A} {s : Store}
  {guard : Config ι firestore Thrown Store A → ι → Prop}
  {c mid final : Config ι firestore Thrown Store A} {collection : CollectionName} {id : String}
  {d : Document}

/-- The document is stored, or some program has been answered with it. -/
inductive Conosciuto (c : Config ι firestore Thrown Store A) (collection : CollectionName)
    (id : String) (d : Document) : Prop where
  | conservato (stored : c.store.get collection id = some d)
  | letto (i : ι) (read : (i, ⟨.get collection id, .ok (some d)⟩) ∈ c.trace)
  | elencato (i : ι) (filters : List Filter) (docs : List (String × Document))
      (asked : (i, ⟨.query collection filters, .ok docs⟩) ∈ c.trace) (listed : (id, d) ∈ docs)

/-- The exchange has stored the document. -/
inductive Depositato (c : Config ι firestore Thrown Store A) (collection : CollectionName)
    (id : String) (d : Document) : Exchange firestore Thrown → Prop where
  | aggiunto : Depositato c collection id d ⟨.add collection d, .ok id⟩
  | riscritto : Depositato c collection id d ⟨.set collection id d, .ok ()⟩
  | modificato (before : Document) (data : List (String × FieldWrite))
      (known : Conosciuto c collection id before) (writes : before.writes data = d) :
      Depositato c collection id d ⟨.update collection id data, .ok ()⟩

theorem get_of_put {other : CollectionName} {key : String} {data : Document}
    (stored : (s.put other key data).get collection id = some d) :
    (other = collection ∧ key = id ∧ data = d) ∨ s.get collection id = some d := by
  rw [Store.get_put] at stored
  split at stored
  · next same =>
    cases stored
    exact .inl ⟨same.1.symm, same.2.symm, rfl⟩
  · exact .inr stored

omit [DecidableEq ι] in
theorem stored_of_step {op : Op} {reply : Reply firestore Thrown op}
    {choice : network.Choice}
    (answered : network.exec choice op mid.store = some (reply, final.store))
    (stored : final.store.get collection id = some d) :
    mid.store.get collection id = some d ∨ Depositato mid collection id d ⟨op, reply⟩ := by
  cases op with
  | get | query | callback | onSuccess =>
    rw [network_of_not_isWrite rfl answered] at stored
    exact .inl stored
  | add other data =>
    rcases network_add answered with ⟨-, -, store⟩ | ⟨newId, -, rfl, store⟩
    · exact .inl (store ▸ stored)
    · rcases get_of_put (store ▸ stored) with ⟨rfl, rfl, rfl⟩ | before
      · exact .inr .aggiunto
      · exact .inl before
  | set other key data =>
    rcases network_set answered with ⟨-, -, store⟩ | ⟨rfl, store⟩
    · exact .inl (store ▸ stored)
    · rcases get_of_put (store ▸ stored) with ⟨rfl, rfl, rfl⟩ | before
      · exact .inr .riscritto
      · exact .inl before
  | update other key data =>
    rcases network_update answered with ⟨-, -, store⟩ | ⟨d', found, rfl, store⟩
    · exact .inl (store ▸ stored)
    · rcases get_of_put (store ▸ stored) with ⟨rfl, rfl, same⟩ | before
      · exact .inr (.modificato d' data (.conservato found) same)
      · exact .inl before
  | delete other key =>
    rcases network_delete answered with ⟨-, -, store⟩ | ⟨-, store⟩
    · exact .inl (store ▸ stored)
    · rw [store, Store.get_erase] at stored
      split at stored
      · cases stored
      · exact .inl stored

theorem Conosciuto.of_step {i : ι} {choice : network.Choice}
    (stepped : mid.step network i choice = some final) (known : Conosciuto final collection id d) :
    Conosciuto mid collection id d ∨ ∃ x, Depositato mid collection id d x ∧
      (mid.pool i).nextOp = some x.op ∧ final.trace = (i, x) :: mid.trace := by
  obtain ⟨op, next, reply, head, answered, -, trace⟩ := Config.step_cases stepped
  cases known with
  | conservato stored =>
    rcases stored_of_step answered stored with before | written
    · exact .inl (.conservato before)
    · exact .inr ⟨⟨op, reply⟩, written, by rw [head]; rfl, trace⟩
  | letto j read =>
    rw [trace] at read
    rcases List.mem_cons.mp read with same | earlier
    · -- the read of this step has found what is stored
      cases same
      exact .inl (.conservato ((network_get answered).2 _ rfl).symm)
    · exact .inl (.letto j earlier)
  | elencato j filters docs asked listed =>
    rw [trace] at asked
    rcases List.mem_cons.mp asked with same | earlier
    · cases same
      exact .inl (.conservato (network_query answered listed))
    · exact .inl (.elencato j filters docs earlier listed)

/-- A property of the known documents, which they keep: it holds at the start, and every
write gives it to what it stores. -/
theorem Conosciuto.induction {P : Config ι firestore Thrown Store A → String → Document → Prop}
    (reach : Reaches network guard (.start s pool) c)
    (initially : ∀ id d, s.get collection id = some d → P (.start s pool) id d)
    (keeps : ∀ mid final id d, Reaches network guard mid final → P mid id d → P final id d)
    (writes : ∀ mid final i x id d, Reaches network guard (.start s pool) mid →
      Reaches network guard mid final → (mid.pool i).nextOp = some x.op →
      final.trace = (i, x) :: mid.trace → (∀ id d, Conosciuto mid collection id d → P final id d) →
      Depositato mid collection id d x → P final id d)
    (known : Conosciuto c collection id d) : P c id d := by
  induction reach generalizing id d with
  | refl =>
    -- nothing has been exchanged yet
    cases known with
    | conservato stored => exact initially id d stored
    | letto i read => cases read
    | elencato i filters docs asked listed => cases asked
  | @step mid final i choice before allowed stepped ih =>
    have step : Reaches network guard mid final := .step .refl allowed stepped
    rcases known.of_step stepped with earlier | ⟨x, written, next, trace⟩
    · exact keeps mid final id d step (ih earlier)
    · exact writes mid final i x id d before step next trace
        (fun id d earlier => keeps mid final id d step (ih earlier)) written

theorem trovato_moment (reach : Reaches network guard (.start s pool) c) {i : ι}
    {filters : List Filter} {docs : List (String × Document)}
    (asked : (i, ⟨.query collection filters, .ok docs⟩) ∈ c.trace) (listed : (id, d) ∈ docs) :
    (∀ f ∈ filters, f.holds d = true) ∧
      SomeMoment network guard (.start s pool) c fun store =>
        store.get collection id = some d := by
  obtain ⟨mid, next, choice, first, step, rest, answered, -⟩ := reach.moment_of_start asked
  rw [network_query_ok answered] at listed
  obtain ⟨stored, holds⟩ := Store.mem_trovati.mp listed
  exact ⟨holds, mid, first, step.trans rest, stored⟩

/-- A known document was stored at a moment of the run. -/
theorem Conosciuto.moment (reach : Reaches network guard (.start s pool) c)
    (known : Conosciuto c collection id d) :
    SomeMoment network guard (.start s pool) c fun store => store.get collection id = some d := by
  cases known with
  | conservato stored => exact ⟨c, reach, .refl, stored⟩
  | letto i read =>
    obtain ⟨mid, next, choice, first, step, rest, answered, -⟩ := reach.moment_of_start read
    exact ⟨mid, first, step.trans rest, ((network_get answered).2 _ rfl).symm⟩
  | elencato i filters docs asked listed => exact (trovato_moment reach asked listed).2

end

end TeamSync
