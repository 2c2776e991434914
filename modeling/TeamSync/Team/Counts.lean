import TeamSync.Team.Documents

/-! Counts on the server and lists on the device.

The server filters on stored fields, the device on what it has decoded. They
agree on documents that the application has written, whose fields are there
under their own types.
-/

set_option autoImplicit false

namespace TeamSync.Team

open Effects Projects

def AttivitaScritta (id : String) (d : Document) (a : LeMieAttivita) : Prop :=
  LeMieAttivita.Decodes id d a ∧ d "progetto" = some (.string a.progetto) ∧
    d "completato" = some (.bool a.completato)

def ProgettoScritto (id : String) (d : Document) (p : Progetto) : Prop :=
  Progetto.Decodes id d p ∧ d "completato" = some (.bool p.completato)

section
variable {id : String} {d : Document} {a : LeMieAttivita} {p : Progetto}

theorem ProgettoScritto.write_partecipanti (written : ProgettoScritto id d p) (xs : List String) :
    ProgettoScritto id (Function.update d "partecipanti" (some (.strings xs)))
      { p with partecipanti := xs } := by
  obtain ⟨decodes, raw⟩ := written
  exact ⟨⟨decodes.id, decodes.nome, decodes.descrizione, decodes.dataCreazione,
    decodes.dataScadenza, decodes.dataConsegna, decodes.priorita, Value.asStrings_strings xs,
    decodes.voto, decodes.completato, decodes.codice⟩, raw⟩

theorem progettoScritto_entra (user : String) (written : ProgettoScritto id d p) :
    ∃ p, ProgettoScritto id (d.entra user) p := by
  have listed : d.partecipanti = p.partecipanti.map .string :=
    Document.partecipanti_of_asStrings written.1.partecipanti
  have field : d.entra user "partecipanti" = some (.strings
      (if user ∈ p.partecipanti then p.partecipanti else p.partecipanti ++ [user])) := by
    rw [Document.entra_field, listed]
    simp only [List.mem_map, Item.string.injEq, exists_eq_right]
    split <;> simp [Value.strings]
  have same : d.entra user = Function.update d "partecipanti" (d.entra user "partecipanti") := by
    rw [Document.entra, Document.writes_one, Function.update_self]
  rw [same, field]
  exact ⟨_, written.write_partecipanti _⟩

theorem progettoScritto_esce (user : String) (written : ProgettoScritto id d p) :
    ∃ p, ProgettoScritto id (d.esce user) p := by
  have listed : d.partecipanti = p.partecipanti.map .string :=
    Document.partecipanti_of_asStrings written.1.partecipanti
  have field : d.esce user "partecipanti" = some (.strings
      (p.partecipanti.filter (· ≠ user))) := by
    rw [Document.esce_field, listed, List.filter_map]
    simp [Value.strings, Function.comp_def]
  have same : d.esce user = Function.update d "partecipanti" (d.esce user "partecipanti") := by
    rw [Document.esce, Document.writes_one, Function.update_self]
  rw [same, field]
  exact ⟨_, written.write_partecipanti _⟩

theorem progettoScritto_mappa (id : String) (p : Progetto) :
    ProgettoScritto id (RepositoryProgetto.aggiornaProgettoMap p) (p.riletto id) :=
  ⟨RepositoryProgetto.decodes_aggiornaProgettoMap id p, rfl⟩

theorem attivitaScritta_mappa (id : String) (a : LeMieAttivita) :
    AttivitaScritta id a.toMap (a.riletta id) :=
  ⟨LeMieAttivita.decodes_toMap id a, rfl, rfl⟩

end

def benScritti : Regola where
  vale
    | .todo, id, d => ∃ a, AttivitaScritta id d a
    | .progetti, id, d => ∃ p, ProgettoScritto id d p
    | .utenti, _, _ => True
  nuovo d := ∀ id, ∃ p, ProgettoScritto id d p
  entra user written := written.elim fun _ written => progettoScritto_entra user written
  esce user written := written.elim fun _ written => progettoScritto_esce user written
  modifica _ _ _ _ _ _ _ _ _ := ⟨_, progettoScritto_mappa _ _⟩
  attivita id a := ⟨_, attivitaScritta_mappa id a⟩
  completa completato written := by
    obtain ⟨a, decodes, progetto, -⟩ := written
    refine ⟨_, decodes.write_completato completato, ?_, ?_⟩
    · rw [Document.writes_one, Function.update_of_ne (by decide)]
      exact progetto
    · rw [Document.writes_one, Function.update_self]
      rfl
  assegna utenti written := by
    obtain ⟨a, decodes, progetto, completato⟩ := written
    refine ⟨_, decodes.write_utenti utenti, ?_, ?_⟩
    · rw [Document.writes_one, Function.update_of_ne (by decide)]
      exact progetto
    · rw [Document.writes_one, Function.update_of_ne (by decide)]
      exact completato

/-! ## What the calls answer -/

/-- The counts of the tasks of a project, the two lists of them and the list of
all; and the completed projects of a user among his projects. -/
structure Concordi (s : Store) : Prop where
  attivita : ∀ progettoId, ∃ aperte completate tutte,
    Answers service (ProgettoViewModel.caricaTutteLeAttivitaNonCompletate progettoId) s aperte ∧
    Answers service (ProgettoViewModel.caricaTutteLeAttivitaCompletate progettoId) s completate ∧
    Answers service (TodoRepository.getAttivitaByProgettoId progettoId) s tutte ∧
    Answers service (TodoRepository.countNonCompletedTodoByProject progettoId) s aperte.length ∧
    Answers service (TodoRepository.countCompletedTodo progettoId) s completate.length ∧
    Answers service (TodoRepository.countAllTodo progettoId) s
      (aperte.length + completate.length) ∧
    (aperte ++ completate).Perm tutte
  progetti : ∀ user, ∃ progetti,
    Answers service (RepositoryProgetto.getProgettiUtente user) s progetti ∧
    Answers service (RepositoryProgetto.getProgettiCompletatiUtente user) s
      (progetti.filter fun p => p.completato)

section
variable {s : Store}

theorem answers_countOr0 (filters : List Filter) (s : Store) :
    Answers service (TodoRepository.countOr0 filters) s (s.trovati .todo filters).length :=
  .rescue (.bind (answers_query .todo filters s) (.done _ s))

theorem exists_attivita (holds : benScritti.invariante s) (filters : List Filter) :
    ∃ tutte, List.Forall₂ (fun doc a => AttivitaScritta doc.1 doc.2 a) (s.trovati .todo filters)
      tutte :=
  exists_forall₂ fun (id, d) listed => holds .todo id d (Store.mem_trovati.mp listed).1

theorem exists_progetti (holds : benScritti.invariante s) (filters : List Filter) :
    ∃ progetti, List.Forall₂ (fun doc p => ProgettoScritto doc.1 doc.2 p)
      (s.trovati .progetti filters) progetti :=
  exists_forall₂ fun (id, d) listed => holds .progetti id d (Store.mem_trovati.mp listed).1

theorem answers_getAttivita {progettoId : String} {tutte : List LeMieAttivita}
    (decoded : List.Forall₂ (fun doc a => AttivitaScritta doc.1 doc.2 a)
      (s.trovati .todo [.isEqualTo "progetto" (.string progettoId)]) tutte) :
    Answers service (TodoRepository.getAttivitaByProgettoId progettoId) s tutte :=
  Tasks.answers_getAttivita (mapM_of_forall₂ (decoded.imp fun doc _ written =>
    LeMieAttivita.fromFirestore_eq_ok.mpr ⟨doc.2, rfl, written.1⟩))

theorem length_trovati {progettoId : String} {tutte : List LeMieAttivita} (completato : Bool)
    (decoded : List.Forall₂ (fun doc a => AttivitaScritta doc.1 doc.2 a)
      (s.trovati .todo [.isEqualTo "progetto" (.string progettoId)]) tutte) :
    (s.trovati .todo [.isEqualTo "progetto" (.string progettoId),
      .isEqualTo "completato" (.bool completato)]).length =
      (tutte.filter fun a => if completato then a.completato else !a.completato).length := by
  rw [Store.trovati_pair]
  refine (List.rel_filter ?_ decoded).length_eq
  intro doc a written
  cases completato <;> simp [Filter.holds, written.2.2]

theorem answers_progetti {filters : List Filter} {progetti : List Progetto}
    (decoded : List.Forall₂ (fun doc p => ProgettoScritto doc.1 doc.2 p)
      (s.trovati .progetti filters) progetti) :
    Answers service ((query .progetti filters).bind fun docs =>
      (.ofExcept (docs.mapM fun doc => Progetto.fromFirestore doc.1 doc.2) : App _)) s
      progetti := by
  have read : (s.trovati .progetti filters).mapM
      (fun doc => Progetto.fromFirestore doc.1 doc.2) = .ok progetti :=
    mapM_of_forall₂ (decoded.imp fun doc p written =>
      Progetto.fromFirestore_eq_ok.mpr written.1)
  refine .bind (answers_query .progetti filters s) ?_
  rw [read]
  exact .done progetti s

theorem decoded_completati {user : String} {progetti : List Progetto}
    (decoded : List.Forall₂ (fun doc p => ProgettoScritto doc.1 doc.2 p)
      (s.trovati .progetti [.arrayContains "partecipanti" (.string user)]) progetti) :
    List.Forall₂ (fun doc p => ProgettoScritto doc.1 doc.2 p)
      (s.trovati .progetti [.arrayContains "partecipanti" (.string user),
        .isEqualTo "completato" (.bool true)]) (progetti.filter fun p => p.completato) := by
  rw [Store.trovati_pair]
  refine List.rel_filter ?_ decoded
  intro doc p written
  simp [Filter.holds, written.2]

theorem concordi_of_benScritti (holds : benScritti.invariante s) : Concordi s where
  attivita progettoId := by
    obtain ⟨tutte, decoded⟩ := exists_attivita holds
      [.isEqualTo "progetto" (.string progettoId)]
    have listed := answers_getAttivita decoded
    have both : ((tutte.filter fun a => !a.completato) ++ tutte.filter fun a => a.completato).Perm
        tutte :=
      List.perm_append_comm.trans (List.filter_append_perm (fun a => a.completato) tutte)
    have countOpen := answers_countOr0 [.isEqualTo "progetto" (.string progettoId),
      .isEqualTo "completato" (.bool false)] s
    have countDone := answers_countOr0 [.isEqualTo "progetto" (.string progettoId),
      .isEqualTo "completato" (.bool true)] s
    have countAll := answers_countOr0 [.isEqualTo "progetto" (.string progettoId)] s
    rw [length_trovati false decoded] at countOpen
    rw [length_trovati true decoded] at countDone
    rw [decoded.length_eq, ← both.length_eq, List.length_append] at countAll
    exact ⟨_, _, tutte, .bind listed (.done _ s), .bind listed (.done _ s), listed, countOpen,
      countDone, countAll, both⟩
  progetti user := by
    obtain ⟨progetti, decoded⟩ := exists_progetti holds
      [.arrayContains "partecipanti" (.string user)]
    exact ⟨progetti, .rescue (answers_progetti decoded),
      .rescue (answers_progetti (decoded_completati decoded))⟩

end

section
variable {ι : Type} [DecidableEq ι] {calls : ι → TeamCall}
    {c : Config ι firestore Thrown Store Unit}

theorem benScritti_of_reaches (reach : Reaches network Config.anyStep (start .empty calls) c) :
    benScritti.invariante c.store := by
  refine stored_documents_vale reach ?_ ?_ ?_
  · intro collection id d found
    cases found
  · intro i data creates id
    cases call : calls i with
    | addProgetto =>
      rw [call] at creates
      cases creates
      exact ⟨_, progettoScritto_mappa id _⟩
    | _ =>
      rw [call] at creates
      cases creates
  · intro x _ data id _ written
    exact written id

/-- In every state that the calls of the application reach from the empty database. -/
theorem counts_and_lists_agree
    (reach : Reaches network Config.anyStep (start .empty calls) c) : Concordi c.store :=
  concordi_of_benScritti (benScritti_of_reaches reach)

end

/-! ## A task that is added and completed -/

def aggiungeECompleta : Bool → TeamCall
  | true => .addTodo 0 ⟨0, false⟩ ⟨0, false⟩ "Capitolo 1" "" ⟨microsPerDay, false⟩ false "anna" "p"
      .media
  | false => .completeTodo "t" true

theorem counts_and_lists_agree_capitolo :
    ∃ c, (start .empty aggiungeECompleta).run network
      [(true, .inr "t"), (false, .inr "")] = some c ∧
    (∃ d, c.store.get .todo "t" = some d ∧ d "completato" = some (.bool true)) ∧
    Concordi c.store := by
  obtain ⟨c, ran⟩ : ∃ c, (start .empty aggiungeECompleta).run network
      [(true, .inr "t"), (false, .inr "")] = some c := ⟨_, rfl⟩
  have stored : ∃ d, c.store.get .todo "t" = some d ∧ d "completato" = some (.bool true) := by
    cases ran
    exact ⟨_, rfl, rfl⟩
  exact ⟨c, ran, stored, counts_and_lists_agree (.of_run _ ran (Config.along_anyStep _ _))⟩

end TeamSync.Team
