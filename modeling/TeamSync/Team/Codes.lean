import TeamSync.Team.Identity

/-! The sharing codes that projects are created with, and the projects they name. -/

set_option autoImplicit false

namespace TeamSync.Team

open Effects Projects

def TeamCall.codice : TeamCall → Option String
  | .addProgetto _ _ _ uuid _ _ _ _ _ => some (RepositoryProgetto.generaCodiceProgetto uuid)
  | _ => none

theorem codice_of_crea {call : TeamCall} {data : Document} {codice : String}
    {creazione : Timestamp} (creates : call.crea = some data)
    (key : Chiave data codice creazione) : call.codice = some codice := by
  cases call with
  | addProgetto =>
    cases creates
    have drawn := key.codice
    cases drawn
    rfl
  | _ => cases creates

/-! ## Each call creates at most one project -/

def soloSuo (call : TeamCall) : Regola where
  vale _ _ _ := True
  nuovo data := call.crea = some data
  entra _ _ := trivial
  esce _ _ := trivial
  modifica _ _ _ _ _ _ _ _ _ := trivial
  attivita _ _ := trivial
  completa _ _ := trivial
  assegna _ _ := trivial

theorem onlyCalls_process (call : TeamCall) :
    call.process.OnlyCalls (soloSuo call).contratto.guarantee := by
  refine (rispetta_process call fun _ creates => creates).onlyCalls fun op reply => ?_
  cases op <;> simp [Regola.contratto, soloSuo]

theorem crea_process {call : TeamCall} {data : Document} (creates : call.crea = some data) :
    ∃ next : Reply firestore Thrown (.add .progetti data) → App Unit,
      call.process = .call (I := firestore) (.add .progetti data) next ∧
        ∀ reply, Quiet (next reply) := by
  cases call with
  | addProgetto =>
    cases creates
    refine ⟨_, rfl, fun reply => ?_⟩
    cases reply with
    | error e => trivial
    | ok id => exact ⟨rfl, fun reply => by cases reply <;> trivial⟩
  | _ => cases creates

section
variable {ι : Type} [DecidableEq ι] {calls : ι → TeamCall} {s : Store}
  {guard : Config ι firestore Thrown Store Unit → ι → Prop}
  {c : Config ι firestore Thrown Store Unit} {id id' codice : String} {data data' : Document}

theorem crea_of_trace {i : ι} (reach : Reaches network guard (start s calls) c)
    (created : (i, ⟨.add .progetti data, .ok id⟩) ∈ c.trace) : (calls i).crea = some data :=
  (reach.follows i).onlyCalls (onlyCalls_process (calls i)) _ (Config.mem_own.mpr created)

theorem creates_once {i : ι} (reach : Reaches network guard (start s calls) c)
    (created : (i, ⟨.add .progetti data, .ok id⟩) ∈ c.trace)
    (created' : (i, ⟨.add .progetti data', .ok id'⟩) ∈ c.trace) : id = id' := by
  obtain ⟨next, process, quiet⟩ := crea_process (crea_of_trace reach created)
  have follows : Follows (calls i).process (c.own i) (c.pool i) := reach.follows i
  rw [process] at follows
  have member := Config.mem_own.mpr created
  have member' := Config.mem_own.mpr created'
  generalize c.own i = exchanges, c.pool i = left at follows member member'
  cases follows with
  | refl => cases member
  | call rest =>
    have later := rest.onlyCalls (quiet _)
    -- an exchange after the first is no write
    rcases List.mem_cons.mp member with first | after
    · rcases List.mem_cons.mp member' with first' | after
      · cases first.trans first'.symm
        rfl
      · cases later _ after
    · cases later _ after

/-- The codes that the calls draw, the first eight characters of the UUIDs, are
pairwise distinct. -/
def CodiciDistinti (calls : ι → TeamCall) : Prop :=
  ∀ i j codice, (calls i).codice = some codice → (calls j).codice = some codice → i = j

theorem creatore (reach : Reaches network guard (start .empty calls) c) {d : Document}
    (stored : c.store.get .progetti id = some d) :
    ∃ i data codice, (i, ⟨.add .progetti data, .ok id⟩) ∈ c.trace ∧
      (calls i).codice = some codice ∧ d "codice" = some (.string codice) := by
  have nothing : ∀ id d, Store.empty.get .progetti id = some d →
      ∃ codice creazione, Chiave d codice creazione := by
    intro id d found
    cases found
  obtain ⟨data, codice, creazione, born, key, now⟩ :=
    stored_nato reach nothing (fun _ _ born => born) stored
  rcases born with found | ⟨i, created⟩
  · cases found
  · exact ⟨i, data, codice, created, codice_of_crea (crea_of_trace reach created) key, now.codice⟩

theorem codice_unico (reach : Reaches network guard (start .empty calls) c)
    (distinct : CodiciDistinti calls) {d d' : Document}
    (stored : c.store.get .progetti id = some d) (stored' : c.store.get .progetti id' = some d')
    (code : d "codice" = some (.string codice)) (code' : d' "codice" = some (.string codice)) :
    id = id' := by
  obtain ⟨i, data, drawn, created, draws, has⟩ := creatore reach stored
  obtain ⟨j, data', drawn', created', draws', has'⟩ := creatore reach stored'
  cases has.symm.trans code
  cases has'.symm.trans code'
  cases distinct i j codice draws draws'
  exact creates_once reach created created'

end

/-! ## What a code finds -/

section
variable {s : Store} {id codice : String}

def Unico (s : Store) (id codice : String) : Prop :=
  ∀ other, (∃ d, s.get .progetti other = some d ∧ d "codice" = some (.string codice)) ↔ other = id

theorem head_trovati (only : Unico s id codice) :
    (s.trovati .progetti [.isEqualTo "codice" (.string codice)]).head?.map Prod.fst = some id := by
  have listed : ∀ other d, (other, d) ∈ s.trovati .progetti [.isEqualTo "codice" (.string codice)] ↔
      s.get .progetti other = some d ∧ d "codice" = some (.string codice) := by
    simp [Store.mem_trovati, Filter.holds]
  obtain ⟨d, stored⟩ := (only id).mpr rfl
  have found := (listed id d).mpr stored
  cases docs : s.trovati .progetti [.isEqualTo "codice" (.string codice)] with
  | nil =>
    rw [docs] at found
    cases found
  | cons entry rest =>
    obtain ⟨other, d'⟩ := entry
    have first : (other, d') ∈ s.trovati .progetti [.isEqualTo "codice" (.string codice)] := by
      rw [docs]
      exact List.mem_cons_self
    have same : other = id := (only other).mp ⟨d', (listed other d').mp first⟩
    rw [same]
    rfl

theorem answers_primo (codice : String) (s : Store) :
    Answers service (RepositoryProgetto.getProgettoIdByCodice codice) s
      ((s.trovati .progetti [.isEqualTo "codice" (.string codice)]).head?.map Prod.fst) :=
  .rescue (.bind (answers_query .progetti _ s) (.done _ s))

theorem answers_getProgettoIdByCodice (only : Unico s id codice) :
    Answers service (RepositoryProgetto.getProgettoIdByCodice codice) s (some id) := by
  rw [← head_trovati only]
  exact answers_primo codice s

theorem answers_getProgettiUtente (user : String) (s : Store) :
    ∃ progetti, Answers service (RepositoryProgetto.getProgettiUtente user) s progetti ∧
      ∀ p ∈ progetti, ∃ id, p.id = some id ∧ s.partecipa id user := by
  cases read : (s.trovati .progetti [.arrayContains "partecipanti" (.string user)]).mapM
      fun doc => Progetto.fromFirestore doc.1 doc.2 with
  | ok progetti =>
    refine ⟨progetti, answers_call_query ?_, fun p member => ?_⟩
    · dsimp only [Process.ofExcept_ok, Process.bind_done]
      rw [read]
      exact .done progetti s
    · obtain ⟨⟨id, d⟩, listed, decoded⟩ := of_mem_mapM read member
      obtain ⟨stored, matched⟩ := Store.mem_trovati.mp listed
      refine ⟨id, (Progetto.fromFirestore_eq_ok.mp decoded).id, d, stored, ?_⟩
      simpa [Filter.holds, Document.partecipa, Document.partecipanti] using matched
  | error e =>
    refine ⟨[], answers_call_query ?_, fun p member => by cases member⟩
    dsimp only [Process.ofExcept_ok, Process.bind_done]
    rw [read]
    exact .done [] s

theorem yields_join (user codice : String) (s : Store) : ∃ success errore final,
    Yields service (ProgettoViewModel.aggiungiPartecipanteConCodice user codice) s
      (.ok (success, errore)) final ∧ (success = false → final = s) ∧
    ∀ id, (s.trovati .progetti [.isEqualTo "codice" (.string codice)]).head?.map Prod.fst =
        some id →
      final.partecipa id user ∧
        ∀ other, other ≠ id → final.get .progetti other = s.get .progetti other := by
  obtain ⟨progetti, listed, taken⟩ := answers_getProgettiUtente user s
  have searched := answers_primo codice s
  cases docs : s.trovati .progetti [.isEqualTo "codice" (.string codice)] with
  | nil =>
    rw [docs] at searched
    exact ⟨false, _, s, .rescue (searched.bind (listed.bind (.done _ s))), fun _ => rfl,
      fun _ found => by cases found⟩
  | cons doc rest =>
    obtain ⟨id, d⟩ := doc
    rw [docs] at searched
    have stored : s.get .progetti id = some d :=
      (Store.mem_trovati.mp (docs ▸ List.mem_cons_self)).1
    by_cases present : ProgettoViewModel.utentePartecipa
        (ProgettoViewModel.convertiProgettiInId progetti) id = true
    · refine ⟨false, some "Fai già parte di questo progetto!", s,
        .rescue (searched.bind (listed.bind ?_)), fun _ => rfl, ?_⟩
      · simp only [List.head?_cons, Option.map_some, present, if_true]
        exact .done _ s
      · rintro _ ⟨⟩
        refine ⟨?_, fun _ _ => rfl⟩
        rw [ProgettoViewModel.utentePartecipa, List.contains_iff_mem,
          ProgettoViewModel.convertiProgettiInId, List.mem_filterMap] at present
        obtain ⟨p, member, isProject⟩ := present
        obtain ⟨other, same, takesPart⟩ := taken p member
        cases isProject.symm.trans same
        exact takesPart
    · refine ⟨true, none, s.put .progetti id (d.entra user),
        .rescue (searched.bind (listed.bind ?_)), (fun failed => by cases failed), ?_⟩
      · simp only [List.head?_cons, Option.map_some, present]
        exact .bind (yields_update stored _) (.done _ _)
      · rintro _ ⟨⟩
        refine ⟨?_, fun other differ => Store.get_put_of_ne differ⟩
        rw [Store.partecipa_put, if_pos rfl, Document.partecipa_entra]
        exact .inl rfl

theorem runs_join {user : String} (only : Unico s id codice) {final : Store}
    {calls : List (Exchange firestore Thrown)} {out : Except Thrown (Bool × Option String)}
    (run : Runs service (ProgettoViewModel.aggiungiPartecipanteConCodice user codice) s calls out
      final) :
    final.partecipa id user ∧ ∀ other, other ≠ id → final.get .progetti other =
      s.get .progetti other := by
  obtain ⟨success, errore, joined, ends, -, found⟩ := yields_join user codice s
  obtain ⟨-, rfl⟩ := ends.only run
  exact found id (head_trovati only)

end

/-- The code names the project: it finds it, and who joins with it takes part in
that project and in no other because of it. -/
structure Nomina (s : Store) (codice id : String) : Prop where
  unico : Unico s id codice
  trova : Answers service (RepositoryProgetto.getProgettoIdByCodice codice) s (some id)
  termina : ∀ user, ∃ calls out final,
    Runs service (ProgettoViewModel.aggiungiPartecipanteConCodice user codice) s calls out final
  unisce : ∀ user calls out final,
    Runs service (ProgettoViewModel.aggiungiPartecipanteConCodice user codice) s calls out final →
    final.partecipa id user ∧
      ∀ other, other ≠ id → final.get .progetti other = s.get .progetti other

theorem nomina_of_unico {s : Store} {id codice : String} (only : Unico s id codice) :
    Nomina s codice id where
  unico := only
  trova := answers_getProgettoIdByCodice only
  termina _ := exists_runs service_total _ s
  unisce _ _ _ _ run := runs_join only run

/-- When the calls draw distinct codes, every stored project is named by its code,
in every state of every interleaving. -/
theorem code_names_one_project {ι : Type} [DecidableEq ι] {calls : ι → TeamCall}
    (distinct : CodiciDistinti calls) {c : Config ι firestore Thrown Store Unit}
    (reach : Reaches network Config.anyStep (start .empty calls) c) {id : String} {d : Document}
    (stored : c.store.get .progetti id = some d) :
    ∃ codice, d "codice" = some (.string codice) ∧ Nomina c.store codice id := by
  obtain ⟨i, data, codice, -, -, code⟩ := creatore reach stored
  refine ⟨codice, code, nomina_of_unico fun other => ⟨?_, ?_⟩⟩
  · rintro ⟨d', stored', code'⟩
    exact codice_unico reach distinct stored' stored code' code
  · rintro rfl
    exact ⟨d, stored, code⟩

/-! ## Two UUIDs that begin in the same way -/

def creazione (utente uuid : String) : TeamCall :=
  .addProgetto ⟨none, [], some utente, [], false⟩ ⟨0, true⟩ "x" uuid "Tesi" ""
    ⟨microsPerDay, false⟩ .media [utente]

def dueCreazioni (uuidDiBruno : String) : Bool → TeamCall
  | true => creazione "anna" "01234567-89ab-4cde-8f01-23456789abcd"
  | false => creazione "bruno" uuidDiBruno

theorem code_names_one_project_anna :
    ∃ c d, (start .empty (dueCreazioni "76543210-89ab-4cde-8f01-23456789abcd")).run network
      [(true, .inr "p"), (false, .inr "q")] = some c ∧ c.store.get .progetti "p" = some d ∧
      ∃ codice, d "codice" = some (.string codice) ∧ Nomina c.store codice "p" := by
  obtain ⟨c, ran⟩ : ∃ c, (start .empty (dueCreazioni "76543210-89ab-4cde-8f01-23456789abcd")).run
      network [(true, .inr "p"), (false, .inr "q")] = some c := ⟨_, rfl⟩
  obtain ⟨d, stored⟩ : ∃ d, c.store.get .progetti "p" = some d := by
    cases ran
    exact ⟨_, rfl⟩
  refine ⟨c, d, ran, stored, code_names_one_project ?_
    (.of_run _ ran (Config.along_anyStep _ _)) stored⟩
  have differ : RepositoryProgetto.generaCodiceProgetto "01234567-89ab-4cde-8f01-23456789abcd" ≠
      RepositoryProgetto.generaCodiceProgetto "76543210-89ab-4cde-8f01-23456789abcd" := by decide
  rintro (_ | _) (_ | _) codice drawn drawn'
  · rfl
  · exact absurd (Option.some.inj (drawn'.trans drawn.symm)) differ
  · exact absurd (Option.some.inj (drawn.trans drawn'.symm)) differ
  · rfl

/-- The UUIDs differ from the ninth character on, and both projects get one code. -/
theorem one_code_two_projects :
    "01234567-89ab-4cde-8f01-23456789abcd" ≠ "01234567-1234-4cde-8f01-23456789abcd" ∧
    ∃ c d d', Reaches service Config.anyStep
      (start .empty (dueCreazioni "01234567-1234-4cde-8f01-23456789abcd")) c ∧
    c.store.get .progetti "p" = some d ∧ c.store.get .progetti "q" = some d' ∧
    d "codice" = some (.string "01234567") ∧ d' "codice" = some (.string "01234567") ∧
    ¬ Nomina c.store "01234567" "q" := by
  refine ⟨by decide, _, _, _, .of_run [(true, "p"), (false, "q")] rfl (Config.along_anyStep _ _),
    rfl, rfl, by decide, by decide, fun names => ?_⟩
  have same : "p" = "q" := (names.unico "p").mp ⟨_, rfl, by decide⟩
  revert same
  decide

end TeamSync.Team
