import TeamSync.Projects.Moves

/-! Any number of calls on projects sharing one database. -/

set_option autoImplicit false

namespace TeamSync.Projects

open Effects

variable {ι : Type} [DecidableEq ι]

abbrev System (ι : Type) := Config ι firestore Thrown Store Result

def start (s : Store) (calls : ι → ProjectCall) : System ι := .start s fun i => (calls i).process

variable {guard : System ι → ι → Prop} {s : Store} {calls : ι → ProjectCall} {c final : System ι}

theorem at_of_reaches (reach : Reaches network guard (start s calls) c) (i : ι) :
    (calls i).At (c.pool i) := by
  induction reach with
  | refl => exact (calls i).at_process
  | @step mid final j choice _ _ stepped ih =>
    obtain ⟨op, next, reply, head, answered, pool, -⟩ := Config.step_cases stepped
    rw [pool]
    by_cases same : i = j
    · subst same
      rw [Function.update_self]
      exact (ih.moved head answered).1
    · rw [Function.update_of_ne same]
      exact ih

theorem step_moved {i : ι} {choice : network.Choice}
    (reach : Reaches network guard (start s calls) c)
    (stepped : c.step network i choice = some final) :
    ∃ x p', final.pool = Function.update c.pool i p' ∧
      final.trace = (i, x) :: c.trace ∧ (c.pool i).nextOp = some x.op ∧
      (calls i).Moved c.store (c.pool i) x p' final.store := by
  obtain ⟨op, next, reply, head, answered, pool, trace⟩ := Config.step_cases stepped
  exact ⟨⟨op, reply⟩, _, pool, trace, by rw [head]; rfl,
    ((at_of_reaches reach i).moved head answered).2⟩

theorem nextOp_update {i j : ι} {p' : App Result} {op : Op}
    (pool : final.pool = Function.update c.pool i p') (head : (final.pool j).nextOp = some op) :
    j = i ∧ p'.nextOp = some op ∨ (c.pool j).nextOp = some op := by
  rw [pool] at head
  by_cases same : j = i
  · subst same
    rw [Function.update_self] at head
    exact .inl ⟨rfl, head⟩
  · rw [Function.update_of_ne same] at head
    exact .inr head

/-! ## Memberships -/

/-- What an exchange acknowledges about the participation of a user in a project. -/
def appartenenza (user progettoId : String) : Exchange firestore Thrown → Option Bool
  | ⟨.update .progetti id data, .ok _⟩ =>
    if id = progettoId ∧ data = [("partecipanti", .arrayUnion [.string user])] then some true
    else if id = progettoId ∧ data = [("partecipanti", .arrayRemove [.string user])] then some false
    else none
  | _ => none

def ultima (user progettoId : String) (c : System ι) : Option Bool :=
  c.trace.findSome? fun entry => appartenenza user progettoId entry.2

@[simp] theorem appartenenza_unisciti (user other id progettoId : String) :
    appartenenza user progettoId ⟨opUnisciti other id, .ok ()⟩ =
      if id = progettoId ∧ other = user then some true else none := by
  simp [appartenenza]

@[simp] theorem appartenenza_abbandona (user other id progettoId : String) :
    appartenenza user progettoId ⟨opAbbandona other id, .ok ()⟩ =
      if id = progettoId ∧ other = user then some false else none := by
  simp [appartenenza]

theorem appartenenza_of_not_scritto {user progettoId : String} {x : Exchange firestore Thrown}
    (quiet : ¬ Scritto x) : appartenenza user progettoId x = none := by
  obtain ⟨op, reply⟩ := x
  unfold appartenenza
  split
  · next same =>
    cases same
    exact absurd ⟨rfl, _, rfl⟩ quiet
  · rfl

omit [DecidableEq ι] in
theorem ultima_cons {user progettoId : String} {i : ι} {x : Exchange firestore Thrown}
    (trace : final.trace = (i, x) :: c.trace) :
    ultima user progettoId final = (appartenenza user progettoId x).or
      (ultima user progettoId c) := by
  rw [ultima, trace, List.findSome?_cons]
  cases appartenenza user progettoId x <;> rfl

theorem partecipa_put_entra {s : Store} {u id progettoId user : String} {d : Document}
    (found : s.get .progetti id = some d) :
    (s.put .progetti id (d.entra u)).partecipa progettoId user ↔
      (appartenenza user progettoId ⟨opUnisciti u id, .ok ()⟩).elim (s.partecipa progettoId user)
      (· = true) := by
  rw [Store.partecipa_put, appartenenza_unisciti]
  by_cases there : progettoId = id
  · subst there
    by_cases self : u = user
    · simp [self]
    · simp [self, Ne.symm self, Store.partecipa_of_get found]
  · simp [there, Ne.symm there]

theorem partecipa_put_esce {s : Store} {u id progettoId user : String} {d : Document}
    (found : s.get .progetti id = some d) :
    (s.put .progetti id (d.esce u)).partecipa progettoId user ↔
      (appartenenza user progettoId ⟨opAbbandona u id, .ok ()⟩).elim (s.partecipa progettoId user)
      (· = true) := by
  rw [Store.partecipa_put, appartenenza_abbandona]
  by_cases there : progettoId = id
  · subst there
    by_cases self : u = user
    · simp [self]
    · simp [self, Ne.symm self, Store.partecipa_of_get found]
  · simp [there, Ne.symm there]

omit [DecidableEq ι] in
/-- A step that changes who takes part as it acknowledges keeps the last word on it. -/
theorem ultima_step {user progettoId : String} {i : ι} {x : Exchange firestore Thrown}
    {joined : Bool} (trace : final.trace = (i, x) :: c.trace)
    (changes : final.store.partecipa progettoId user ↔
      (appartenenza user progettoId x).elim (c.store.partecipa progettoId user) (· = true))
    (holds : ultima user progettoId c = some joined →
      (c.store.partecipa progettoId user ↔ joined = true))
    (last : ultima user progettoId final = some joined) :
    final.store.partecipa progettoId user ↔ joined = true := by
  rw [changes]
  rw [ultima_cons trace] at last
  cases acknowledged : appartenenza user progettoId x with
  | none =>
    rw [acknowledged, Option.none_or] at last
    exact holds last
  | some b =>
    rw [acknowledged, Option.some_or] at last
    cases last
    rfl

theorem valuta_scritto {u : String} {found : Option String} {progettiUtente : List Progetto}
    {exchanges : List (Exchange firestore Thrown)} {m : Option String}
    (follows : Follows (valuta u found progettiUtente) exchanges (.done (.unito (true, m)))) :
    ∃ id, ⟨opUnisciti u id, .ok ()⟩ ∈ exchanges := by
  cases found with
  | none => cases follows
  | some id =>
    simp only [valuta] at follows
    split at follows
    -- a user who takes part already is answered false
    · cases follows
    · obtain ⟨reply, rest, after, rfl⟩ := follows.of_call trivial
      cases reply with
      | error e => cases after
      | ok _ => exact ⟨id, List.mem_cons_self⟩

theorem unito_scritto {u codice : String} {exchanges : List (Exchange firestore Thrown)}
    {m : Option String} (follows : Follows (cerca u codice) exchanges (.done (.unito (true, m)))) :
    ∃ id, ⟨opUnisciti u id, .ok ()⟩ ∈ exchanges := by
  obtain ⟨reply, rest, listed, rfl⟩ := follows.of_call trivial
  -- a search that fails is answered like one that finds nothing
  have listed : ∃ found, Follows (elenca u found) rest (.done (.unito (true, m))) := by
    cases reply <;> exact ⟨_, listed⟩
  obtain ⟨found, listed⟩ := listed
  obtain ⟨reply', rest', valued, rfl⟩ := listed.of_call trivial
  have written : ∃ id, ⟨opUnisciti u id, .ok ()⟩ ∈ rest' := by
    cases reply' <;> exact valuta_scritto valued
  obtain ⟨id, member⟩ := written
  exact ⟨id, List.mem_cons_of_mem _ (List.mem_cons_of_mem _ member)⟩

theorem finito_scritto {u id : String} {exchanges : List (Exchange firestore Thrown)}
    (follows : Follows (verifica u id) exchanges (.done .finito)) :
    ⟨opAbbandona u id, .ok ()⟩ ∈ exchanges := by
  obtain ⟨reply, rest, verified, rfl⟩ := follows.of_call trivial
  rcases reply with e | _ | d
  · cases verified
  · cases verified
  obtain ⟨reply, rest', after, rfl⟩ := verified.of_call trivial
  cases reply with
  | error e => cases after
  | ok _ => exact List.mem_cons_of_mem _ List.mem_cons_self

theorem scritto_of_unito {i : ι} {u codice : String} {m : Option String}
    (reach : Reaches network guard (start s calls) c)
    (joins : calls i = .membro (.unisciti u codice))
    (returned : c.pool i = .done (.unito (true, m))) :
    ∃ id, (i, ⟨opUnisciti u id, .ok ()⟩) ∈ c.trace := by
  have follows := reach.follows i
  rw [joins, returned, ProjectCall.process, unisciti_process] at follows
  obtain ⟨id, member⟩ := unito_scritto follows
  exact ⟨id, Config.mem_own.mp member⟩

theorem scritto_of_finito {i : ι} {u id : String} (reach : Reaches network guard (start s calls) c)
    (leaves : calls i = .membro (.abbandona (some u) id)) (returned : c.pool i = .done .finito) :
    (i, ⟨opAbbandona u id, .ok ()⟩) ∈ c.trace := by
  have follows := reach.follows i
  rw [leaves, returned, ProjectCall.process, abbandona_process] at follows
  exact Config.mem_own.mp (finito_scritto follows)

end TeamSync.Projects
