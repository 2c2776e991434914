import TeamSync.Projects.Abandonment
import TeamSync.Projects.Runs

/-! Joins by code whose calls may fail, over projects that may be unreadable. -/

set_option autoImplicit false

namespace TeamSync.Projects

open Effects ProgettoViewModel

/-! ## What the answer says -/

def HaCodice (s : Store) (codice id : String) (d : Document) : Prop :=
  s.get .progetti id = some d ∧ d "codice" = some (.string codice)

/-- True says that the user has become a participant of the project with the code, that
he has been appended there and nothing else has changed; false says, with a message,
that nothing has changed. -/
structure Veritiera (u codice : String) (s : Store) (answer : Bool × Option String)
    (final : Store) : Prop where
  vero_iff : answer.1 = true ↔
    ∃ id d, HaCodice s codice id d ∧ ¬ s.partecipa id u ∧ final.partecipa id u
  rifiuto : answer.1 = false → (∀ c key, final.get c key = s.get c key) ∧ answer.2 ≠ none
  aggiunta : answer.1 = true → answer.2 = none ∧ ∃ id d, HaCodice s codice id d ∧
    ∀ c key, final.get c key =
      if c = .progetti ∧ key = id then
        some (Function.update d "partecipanti" (some (.array (d.partecipanti ++ [.string u]))))
      else s.get c key

/-- Who takes part in the project with the code already is recognized, or gets no write:
the search of the code or the write fails, or the projects of the user are found and
can all be read. -/
def Riconosciuto (u codice : String) (s : Store) (calls : List (Exchange firestore Thrown)) :
    Prop :=
  ∀ id d, HaCodice s codice id d → s.partecipa id u →
    (∃ e, ⟨opCerca codice, .error e⟩ ∈ calls) ∨ (∃ e, ⟨opUnisciti u id, .error e⟩ ∈ calls) ∨
    (∀ e, ⟨opElenca u, .error e⟩ ∉ calls) ∧
      ∀ key d', s.get .progetti key = some d' → d'.partecipa u →
        ∃ p, Progetto.fromFirestore key d' = .ok p

def AlPiuUno (s : Store) (codice : String) : Prop :=
  ∀ id id' d d', HaCodice s codice id d → HaCodice s codice id' d' → id = id'

section
variable {u codice id : String} {s : Store} {d : Document} {docs : List (String × Document)}
    {codici miei : Risposta} {rest : List (Exchange firestore Thrown)}

theorem mem_trovati_codice : (id, d) ∈ s.trovati .progetti [.isEqualTo "codice" (.string codice)] ↔
    HaCodice s codice id d := by
  simp [Store.mem_trovati, Filter.holds, HaCodice]

theorem mem_trovati_partecipanti :
    (id, d) ∈ s.trovati .progetti [.arrayContains "partecipanti" (.string u)] ↔
      s.get .progetti id = some d ∧ d.partecipa u := by
  simp [Store.mem_trovati, Filter.holds, Document.partecipa, Document.partecipanti]

theorem haCodice_of_trovato
    (codes : ∀ docs, codici = .ok docs →
      docs = s.trovati .progetti [.isEqualTo "codice" (.string codice)])
    (found : trovato codici = some id) : ∃ d, HaCodice s codice id d := by
  cases codici with
  | error e => cases found
  | ok docs =>
    obtain ⟨⟨_, d⟩, first, rfl⟩ := Option.map_eq_some_iff.mp found
    have member := List.mem_of_head? first
    rw [codes docs rfl] at member
    exact ⟨d, mem_trovati_codice.mp member⟩

theorem letti_of_listed (listed : id ∈ propri (.ok docs)) (key : String) (d : Document)
    (member : (key, d) ∈ docs) : ∃ p, Progetto.fromFirestore key d = .ok p := by
  cases read : docs.mapM fun doc => Progetto.fromFirestore doc.1 doc.2 with
  | error e =>
    rw [propri, read] at listed
    cases listed
  | ok progetti =>
    obtain ⟨p, -, decoded⟩ := mapM_of_mem read member
    exact ⟨p, decoded⟩

theorem listed_of_letti
    (readable : ∀ key d, (key, d) ∈ docs → ∃ p, Progetto.fromFirestore key d = .ok p)
    (member : (id, d) ∈ docs) : id ∈ propri (.ok docs) := by
  obtain ⟨progetti, each⟩ := exists_forall₂
    (R := fun (doc : String × Document) p => Progetto.fromFirestore doc.1 doc.2 = .ok p)
    fun doc listed => readable doc.1 doc.2 listed
  have read := mapM_of_forall₂ each
  obtain ⟨p, found, decoded⟩ := mapM_of_mem read member
  rw [propri, read]
  exact List.mem_filterMap.mpr ⟨p, found, (Progetto.fromFirestore_eq_ok.mp decoded).id⟩

/-! ### Who is recognized -/

theorem riconosciuto_sconosciuto
    (codes : ∀ docs, codici = .ok docs →
      docs = s.trovati .progetti [.isEqualTo "codice" (.string codice)])
    (unfound : trovato codici = none) :
    Riconosciuto u codice s (⟨opCerca codice, codici⟩ :: ⟨opElenca u, miei⟩ :: rest) := by
  intro id d has _
  cases codici with
  | error e => exact .inl ⟨e, List.mem_cons_self⟩
  | ok docs =>
    rw [trovato, Option.map_eq_none_iff, List.head?_eq_none_iff] at unfound
    have member := mem_trovati_codice.mpr has
    rw [← codes docs rfl, unfound] at member
    cases member

theorem riconosciuto_giaParte
    (own : ∀ docs, miei = .ok docs →
      docs = s.trovati .progetti [.arrayContains "partecipanti" (.string u)])
    (listed : id ∈ propri miei) :
    Riconosciuto u codice s [⟨opCerca codice, codici⟩, ⟨opElenca u, miei⟩] := by
  intro _ _ _ _
  refine .inr (.inr ?_)
  cases miei with
  | error e => cases listed
  | ok docs =>
    refine ⟨fun e member => by simp at member, fun key d stored inside => ?_⟩
    refine letti_of_listed listed key d ?_
    rw [own docs rfl]
    exact mem_trovati_partecipanti.mpr ⟨stored, inside⟩

theorem listed_of_riconosciuto (found : trovato codici = some id)
    (own : ∀ docs, miei = .ok docs →
      docs = s.trovati .progetti [.arrayContains "partecipanti" (.string u)])
    (has : HaCodice s codice id d) (inside : s.partecipa id u)
    (recognized : Riconosciuto u codice s
      [⟨opCerca codice, codici⟩, ⟨opElenca u, miei⟩, ⟨opUnisciti u id, .ok ()⟩]) :
    id ∈ propri miei := by
  rcases recognized id d has inside with ⟨e, member⟩ | ⟨e, member⟩ | ⟨asked, readable⟩
  · cases codici with
    | error e => cases found
    | ok docs => simp at member
  · simp at member
  · cases miei with
    | error e => exact absurd (by simp) (asked e)
    | ok docs =>
      rw [Store.partecipa_of_get has.1] at inside
      cases own docs rfl
      refine listed_of_letti (fun key d listed => ?_)
        (mem_trovati_partecipanti.mpr ⟨has.1, inside⟩)
      have there := mem_trovati_partecipanti.mp listed
      exact readable key d there.1 there.2

/-! ### What is true -/

theorem veritiera_rifiuto (errore : String) : Veritiera u codice s (false, some errore) s where
  vero_iff := by
    refine iff_of_false nofun ?_
    rintro ⟨id, d, -, outside, inside⟩
    exact outside inside
  rifiuto _ := ⟨fun _ _ => rfl, Option.some_ne_none _⟩
  aggiunta := nofun

theorem veritiera_aggiunta_iff (unique : AlPiuUno s codice) (has : HaCodice s codice id d) :
    Veritiera u codice s (true, none) (s.put .progetti id (d.entra u)) ↔ ¬ s.partecipa id u := by
  constructor
  · rintro ⟨truth, -, -⟩
    obtain ⟨id', d', has', outside, -⟩ := truth.mp rfl
    cases unique id id' d d' has has'
    exact outside
  · intro outside
    refine ⟨iff_of_true rfl ⟨id, d, has, outside, ?_⟩, nofun, fun _ => ⟨rfl, id, d, has, ?_⟩⟩
    · rw [Store.partecipa_put, if_pos rfl, Document.partecipa_entra]
      exact .inl rfl
    · rw [Store.partecipa_of_get has.1] at outside
      rw [Document.entra_of_not_partecipa outside]
      exact fun c key => Store.get_put _ _ _ _ _ _

end

/-- For a code of one project at most: a join answers truthfully just when a user who
takes part in that project already is recognized, or gets no write. -/
theorem join_answers_truthfully_iff {u codice : String} {s final : Store}
    {calls : List (Exchange firestore Thrown)} {out : Except Thrown (Bool × Option String)}
    (unique : AlPiuUno s codice)
    (run : Runs network (aggiungiPartecipanteConCodice u codice) s calls out final) :
    (∃ answer, out = .ok answer ∧ Veritiera u codice s answer final) ↔
      Riconosciuto u codice s calls := by
  obtain ⟨codici, miei, rest, answer, rfl, codes, own, rfl, ended⟩ := runs_adesione run
  have told : (∃ a, (.ok answer : Except Thrown (Bool × Option String)) = .ok a ∧
      Veritiera u codice s a final) ↔ Veritiera u codice s answer final := by simp
  rw [told]
  cases ended with
  | sconosciuto unfound =>
    exact iff_of_true (veritiera_rifiuto _) (riconosciuto_sconosciuto codes unfound)
  | giaParte found listed =>
    exact iff_of_true (veritiera_rifiuto _) (riconosciuto_giaParte own listed)
  | @nonScritta id _ e found unlisted =>
    refine iff_of_true (veritiera_rifiuto _) fun id' d' has' _ => .inr (.inl ⟨e, ?_⟩)
    obtain ⟨d, has⟩ := haCodice_of_trovato codes found
    cases unique id id' d d' has has'
    simp
  | @scritta id d found unlisted stored =>
    obtain ⟨_, has⟩ := haCodice_of_trovato codes found
    cases stored.symm.trans has.1
    rw [veritiera_aggiunta_iff unique has]
    constructor
    · intro outside id' d' has' inside
      cases unique id id' d d' has has'
      exact absurd inside outside
    · intro recognized inside
      exact unlisted (listed_of_riconosciuto found own has inside recognized)

/-! ## Anna joins her own project -/

theorem soloTesi {id : String} {d : Document}
    (stored : storeConProgetto.get .progetti id = some d) :
    id = "p" ∧ d = RepositoryProgetto.creaProgettoMap progettoDiAnna := by
  by_cases same : id = "p"
  · subst same
    exact ⟨rfl, (Option.some.inj stored).symm⟩
  · rw [storeConProgetto, Store.get_put_of_ne same] at stored
    cases stored

theorem alPiuUno_storeConProgetto (codice : String) : AlPiuUno storeConProgetto codice := by
  intro id id' d d' has has'
  rw [(soloTesi has.1).1, (soloTesi has'.1).1]

theorem join_answers_truthfully_iff_bruno : ∃ calls final,
    Runs network (aggiungiPartecipanteConCodice "bruno" "1a2b3c4d") storeConProgetto calls
      (.ok (true, none)) final ∧
    ∃ answer, (.ok (true, none) : Except Thrown (Bool × Option String)) = .ok answer ∧
      Veritiera "bruno" "1a2b3c4d" storeConProgetto answer final := by
  obtain ⟨calls, final, run⟩ : ∃ calls final,
      Runs network (aggiungiPartecipanteConCodice "bruno" "1a2b3c4d") storeConProgetto calls
        (.ok (true, none)) final := ⟨_, _, .of_runAlone [.inr "", .inr "", .inr ""] rfl⟩
  refine ⟨calls, final, run, (join_answers_truthfully_iff (alPiuUno_storeConProgetto _) run).mpr ?_⟩
  rintro id d - ⟨d', stored, member⟩
  -- bruno is not a participant yet
  cases (soloTesi stored).2
  have alone : Item.string "bruno" ∈ [Item.string "anna"] := member
  simp at alone

/-- Anna takes part already. The query of her projects fails, and she is told that
she has been added. -/
theorem join_of_participant_succeeds : ∃ calls final,
    Runs network (aggiungiPartecipanteConCodice "anna" "1a2b3c4d") storeConProgetto calls
      (.ok (true, none)) final ∧
    storeConProgetto.partecipa "p" "anna" ∧
    ¬ Veritiera "anna" "1a2b3c4d" storeConProgetto (true, none) final := by
  refine ⟨_, _, .of_runAlone [.inr "", .inl (.firebase "unavailable"), .inr ""] rfl,
    ⟨_, rfl, List.mem_cons_self⟩, fun truthful => ?_⟩
  obtain ⟨id, d, has, outside, -⟩ := truthful.vero_iff.mp rfl
  obtain ⟨rfl, rfl⟩ := soloTesi has.1
  exact outside ⟨_, has.1, List.mem_cons_self⟩

end TeamSync.Projects
