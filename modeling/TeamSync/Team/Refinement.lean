import TeamSync.Team.Acknowledged
import TeamSync.Team.Assignees
import TeamSync.Team.Counts
import TeamSync.Team.Workspace

/-! Sequences of complete calls, as what happens in a workspace.

Each call may fail, except that what has begun to leave or to be withdrawn goes to
its end. A call that has had a write acknowledged is one event of its own kind.
-/

set_option autoImplicit false

namespace TeamSync.Team

open Effects Projects Tasks

abbrev Lavoro := Spazio String String

def DallePagine (history : Storia) (_ : Store) : TeamCall → Prop
  | .addProgetto _ _ _ _ _ _ _ _ partecipanti => partecipanti ≠ []
  | .updateTodo _ _ _ id _ _ _ _ progetto utenti _ _ =>
    ∃ d a, Letto history id d ∧ LeMieAttivita.Decodes id d a ∧ a.progetto = progetto ∧
      a.utenti = utenti
  | .updateDataScadenzaTodo _ attivita _ =>
    ∃ id d, Letto history id d ∧ LeMieAttivita.Decodes id d attivita
  | _ => True

/-- What a call that has written means in a workspace. -/
inductive Significa (w : Lavoro) : TeamCall → Evento String String → Prop where
  | unisciti {user : String} {id : String} {g : Gruppo String} (trovato : w.gruppi id = some g) :
      Significa w (.suProgetto (.membro (.unisciti user g.codice))) (.entra id user)
  | abbandona {user id : String} {g : Gruppo String} (esiste : w.gruppi id = some g) :
      Significa w (.suProgetto (.membro (.abbandona (some user) id))) (.esce id user)
  | aggiorna {vm : ProgettoViewModel} {id nome descrizione : String} {dataScadenza : DateTime}
      {priorita : Priorita} {completato : Bool} {voto : String} {dataConsegna : DateTime}
      {g : Gruppo String} (esiste : w.gruppi id = some g) :
      Significa w (.suProgetto (.aggiorna vm id nome descrizione dataScadenza priorita completato
        voto dataConsegna)) (.modifica id nome completato)
  | addProgetto {vm : ProgettoViewModel} {now : DateTime}
      {progettoId uuid nome descrizione : String} {dataScadenza : DateTime} {priorita : Priorita}
      {partecipanti : List String} {id : String} (nuovo : w.gruppi id = none)
      (abitato : partecipanti.toFinset.Nonempty) :
      Significa w (.addProgetto vm now progettoId uuid nome descrizione dataScadenza priorita
        partecipanti) (.fonda id ⟨RepositoryProgetto.generaCodiceProgetto uuid, nome, false,
          partecipanti.toFinset, abitato⟩)
  | addTodo {zone : Zone} {oggi now : DateTime} {titolo descrizione : String}
      {dataScadenza : DateTime} {completato : Bool} {proprietario progetto : String}
      {priorita : Priorita} {id : String} (nuovo : w.compiti id = none)
      (intitolato : titolo ≠ "") (affidato : ([proprietario] : Multiset String) ≠ 0) :
      Significa w (.addTodo zone oggi now titolo descrizione dataScadenza completato proprietario
        progetto priorita) (.apri id ⟨progetto, titolo, completato, [proprietario], intitolato,
          affidato⟩)
  | updateTodo {zone : Zone} {oggi now : DateTime} {id titolo descrizione : String}
      {dataScadenza dataCreazione : DateTime} {progetto : String} {utenti : List String}
      {completato : Bool} {priorita : Priorita} (intitolato : titolo ≠ "")
      (affidato : (utenti : Multiset String) ≠ 0) :
      Significa w (.updateTodo zone oggi now id titolo descrizione dataScadenza dataCreazione
        progetto utenti completato priorita)
        (.riscrivi id ⟨progetto, titolo, completato, utenti, intitolato, affidato⟩)
  | updateDataScadenzaTodo {now : DateTime} {attivita : LeMieAttivita} {id : String}
      {dataScadenzaProgetto : DateTime} (suo : attivita.id = some id)
      (intitolato : attivita.titolo ≠ "") (affidato : (attivita.utenti : Multiset String) ≠ 0) :
      Significa w (.updateDataScadenzaTodo now attivita dataScadenzaProgetto)
        (.riscrivi id ⟨attivita.progetto, attivita.titolo, attivita.completato, attivita.utenti,
          intitolato, affidato⟩)
  | completeTodo {id : String} {completato : Bool} {t : Compito String String}
      (esiste : w.compiti id = some t) :
      Significa w (.completeTodo id completato) (.completa id completato)
  | aggiungi {id user : String} {t : Compito String String} (esiste : w.compiti id = some t) :
      Significa w (.delega id (.aggiungi user)) (.assegna id user)
  | rimuovi {id user : String} {t : Compito String String} (esiste : w.compiti id = some t)
      (assegnato : user ∈ t.assegnatari) :
      Significa w (.delega id (.rimuovi user)) (.ritira id user)
  | deleteTodo {id : String} : Significa w (.deleteTodo id) (.chiudi id)

/-- What a history means: the calls that have written are events, the others are nothing. -/
inductive Svolgimento : Storia → Lavoro → Prop where
  | inizio : Svolgimento [] .vuoto
  | evento {history : Storia} {w : Lavoro} {call : TeamCall}
      {exchanges : List (Exchange firestore Thrown)} {e : Evento String String} :
      Svolgimento history w → HaScritto exchanges → Significa w call e →
      Svolgimento (⟨call, exchanges⟩ :: history) (w.dopo e)
  | nulla {history : Storia} {w : Lavoro} {call : TeamCall}
      {exchanges : List (Exchange firestore Thrown)} :
      Svolgimento history w → ¬ HaScritto exchanges → Svolgimento (⟨call, exchanges⟩ :: history) w

/-! ## Documents and what they stand for -/

def DiGruppo (id : String) (d : Document) (g : Gruppo String) : Prop :=
  ∃ p, ProgettoScritto id d p ∧ p.codice = g.codice ∧ p.nome = g.nome ∧ p.completato = g.concluso ∧
    p.partecipanti.toFinset = g.membri

def DiCompito (id : String) (d : Document) (t : Compito String String) : Prop :=
  ∃ a, AttivitaScritta id d a ∧ a.progetto = t.gruppo ∧ a.titolo = t.titolo ∧
    a.completato = t.completato ∧ (a.utenti : Multiset String) = t.assegnatari

/-- The database holds the workspace, document by document. -/
structure Rappresenta (s : Store) (w : Lavoro) : Prop where
  gruppi : ∀ id, Option.Rel (DiGruppo id) (s.get .progetti id) (w.gruppi id)
  compiti : ∀ id, Option.Rel (DiCompito id) (s.get .todo id) (w.compiti id)

section
variable {s : Store} {w : Lavoro} {id : String} {d : Document} {g : Gruppo String}
    {t : Compito String String}

theorem Rappresenta.gruppo (rep : Rappresenta s w) (found : s.get .progetti id = some d) :
    ∃ g, w.gruppi id = some g ∧ DiGruppo id d g := by
  have here := rep.gruppi id
  rw [found] at here
  generalize w.gruppi id = other at here
  cases here with
  | some di => exact ⟨_, rfl, di⟩

theorem Rappresenta.compito (rep : Rappresenta s w) (found : s.get .todo id = some d) :
    ∃ t, w.compiti id = some t ∧ DiCompito id d t := by
  have here := rep.compiti id
  rw [found] at here
  generalize w.compiti id = other at here
  cases here with
  | some di => exact ⟨_, rfl, di⟩

theorem Rappresenta.nuovoGruppo (rep : Rappresenta s w) (fresh : id ∉ (s .progetti).used) :
    w.gruppi id = none := by
  have here := rep.gruppi id
  cases found : s.get .progetti id with
  | some d => exact absurd (Store.used_of_get found) fresh
  | none =>
    rw [found] at here
    generalize w.gruppi id = other at here ⊢
    cases here
    rfl

theorem Rappresenta.nuovoCompito (rep : Rappresenta s w) (fresh : id ∉ (s .todo).used) :
    w.compiti id = none := by
  have here := rep.compiti id
  cases found : s.get .todo id with
  | some d => exact absurd (Store.used_of_get found) fresh
  | none =>
    rw [found] at here
    generalize w.compiti id = other at here ⊢
    cases here
    rfl

theorem Rappresenta.congr {other : Store} (rep : Rappresenta s w)
    (same : ∀ c id, other.get c id = s.get c id) : Rappresenta other w :=
  ⟨fun id => by rw [same]; exact rep.gruppi id, fun id => by rw [same]; exact rep.compiti id⟩

theorem Rappresenta.putProgetto (rep : Rappresenta s w) (di : DiGruppo id d g) :
    Rappresenta (s.put .progetti id d) (w.conGruppo id (some g)) where
  gruppi other := by
    rw [Store.get_put, Spazio.gruppi_conGruppo]
    by_cases same : other = id
    · subst same
      simpa using Option.Rel.some di
    · simpa [same] using rep.gruppi other
  compiti other := by
    rw [Store.get_put_other (by decide)]
    exact rep.compiti other

theorem Rappresenta.eraseProgetto (rep : Rappresenta s w) :
    Rappresenta (s.erase .progetti id) (w.conGruppo id none) where
  gruppi other := by
    rw [Store.get_erase, Spazio.gruppi_conGruppo]
    by_cases same : other = id
    · simp [same]
    · simpa [same] using rep.gruppi other
  compiti other := by
    rw [Store.get_erase_other (by decide)]
    exact rep.compiti other

theorem Rappresenta.putTodo (rep : Rappresenta s w) (di : DiCompito id d t) :
    Rappresenta (s.put .todo id d) (w.conCompito id (some t)) where
  gruppi other := by
    rw [Store.get_put_other (by decide)]
    exact rep.gruppi other
  compiti other := by
    rw [Store.get_put, Spazio.compiti_conCompito]
    by_cases same : other = id
    · subst same
      simpa using Option.Rel.some di
    · simpa [same] using rep.compiti other

theorem Rappresenta.eraseTodo (rep : Rappresenta s w) :
    Rappresenta (s.erase .todo id) (w.conCompito id none) where
  gruppi other := by
    rw [Store.get_erase_other (by decide)]
    exact rep.gruppi other
  compiti other := by
    rw [Store.get_erase, Spazio.compiti_conCompito]
    by_cases same : other = id
    · simp [same]
    · simpa [same] using rep.compiti other

end

/-! ## One call -/

section
variable {s : Store} {w : Lavoro} {id user : String} {d : Document} {g : Gruppo String}
    {t : Compito String String} {xs : List String}

theorem entra_eq (listed : d.partecipanti = xs.map .string) (user : String) :
    d.entra user = Function.update d "partecipanti"
      (some (.strings (if user ∈ xs then xs else xs ++ [user]))) := by
  rw [Document.entra, Document.writes_one]
  refine congrArg (Function.update d "partecipanti") (congrArg some ?_)
  have field := Document.entra_field d user
  rw [Document.entra, Document.writes_one, Function.update_self, Option.some.injEq] at field
  rw [field, listed]
  simp only [List.mem_map, Item.string.injEq, exists_eq_right]
  split <;> simp [Value.strings]

theorem esce_eq (listed : d.partecipanti = xs.map .string) (user : String) :
    d.esce user = Function.update d "partecipanti" (some (.strings (xs.filter (· ≠ user)))) := by
  rw [Document.esce, Document.writes_one]
  refine congrArg (Function.update d "partecipanti") (congrArg some ?_)
  have field := Document.esce_field d user
  rw [Document.esce, Document.writes_one, Function.update_self, Option.some.injEq] at field
  rw [field, listed, List.filter_map]
  simp [Value.strings, Function.comp_def]

theorem diGruppo_entra (di : DiGruppo id d g) (user : String) :
    DiGruppo id (d.entra user) (g.entra user) := by
  obtain ⟨p, written, codice, nome, concluso, membri⟩ := di
  rw [entra_eq (Document.partecipanti_of_asStrings written.1.partecipanti)]
  refine ⟨_, written.write_partecipanti _, codice, nome, concluso, ?_⟩
  simp only [Gruppo.entra, ← membri]
  split
  · next member => rw [Finset.insert_eq_of_mem (List.mem_toFinset.mpr member)]
  · rw [List.toFinset_append, Finset.union_comm]
    rfl

theorem toFinset_senza {membri : Finset String} (same : xs.toFinset = membri) (user : String) :
    (xs.filter (· ≠ user)).toFinset = membri.erase user := by
  rw [List.toFinset_filter, same]
  simpa using Finset.filter_ne' membri user

theorem partecipantiDi_esce (di : DiGruppo id d g) (user : String) :
    ∃ xs, RepositoryProgetto.partecipantiDi (d.esce user) = .ok xs ∧
      xs.toFinset = g.membri.erase user := by
  obtain ⟨p, written, -, -, -, membri⟩ := di
  rw [esce_eq (Document.partecipanti_of_asStrings written.1.partecipanti)]
  refine ⟨p.partecipanti.filter (· ≠ user), ?_, ?_⟩
  · simp [RepositoryProgetto.partecipantiDi]
  · exact toFinset_senza membri user

theorem diGruppo_esce (di : DiGruppo id d g) (rimasti : (g.membri.erase user).Nonempty) :
    DiGruppo id (d.esce user) { g with membri := g.membri.erase user, abitato := rimasti } := by
  obtain ⟨p, written, codice, nome, concluso, membri⟩ := di
  rw [esce_eq (Document.partecipanti_of_asStrings written.1.partecipanti)]
  refine ⟨_, written.write_partecipanti _, codice, nome, concluso, ?_⟩
  exact toFinset_senza membri user

theorem rappresenta_esce (rep : Rappresenta s w) (esiste : w.gruppi id = some g)
    (di : DiGruppo id d g) {final : Store} (read : RepositoryProgetto.partecipantiDi (d.esce user) =
      .ok xs) (left : xs ≠ [] ∧ final = s.put .progetti id (d.esce user) ∨
        xs = [] ∧ final = (s.put .progetti id (d.esce user)).erase .progetti id) :
    Rappresenta final (w.dopo (.esce id user)) := by
  obtain ⟨ys, read', rimasti⟩ := partecipantiDi_esce di user
  cases read.symm.trans read'
  simp only [Spazio.dopo, esiste, Option.bind_some, Gruppo.esce]
  rcases left with ⟨some, rfl⟩ | ⟨rfl, rfl⟩
  · have abitato : (g.membri.erase user).Nonempty := by
      rw [← rimasti]
      exact List.toFinset_nonempty_iff xs |>.mpr some
    rw [dif_pos abitato]
    exact rep.putProgetto (diGruppo_esce di abitato)
  · rw [dif_neg (by simp [← rimasti])]
    exact rep.eraseProgetto.congr fun c other => Store.get_erase_put

theorem diCompito_completato (di : DiCompito id d t) (completato : Bool) :
    DiCompito id (d.writes [("completato", .value (.bool completato))])
      { t with completato := completato } := by
  obtain ⟨a, ⟨decodes, progetto, -⟩, gruppo, titolo, -, assegnatari⟩ := di
  exact ⟨_, ⟨decodes.write_completato completato, progetto, rfl⟩, gruppo, titolo, rfl, assegnatari⟩

theorem diCompito_utenti (di : DiCompito id d t) {utenti : List String}
    (affidato : (utenti : Multiset String) ≠ 0) :
    DiCompito id (d.writes [("utenti", .value (.strings utenti))])
      { t with assegnatari := utenti, affidato := affidato } := by
  obtain ⟨a, ⟨decodes, progetto, raw⟩, gruppo, titolo, completato, -⟩ := di
  exact ⟨_, ⟨decodes.write_utenti utenti, progetto, raw⟩, gruppo, titolo, completato, rfl⟩

theorem DiCompito.assegnatari {a : LeMieAttivita} (di : DiCompito id d t)
    (decodes : LeMieAttivita.Decodes id d a) : t.assegnatari = a.utenti := by
  obtain ⟨b, written, -, -, -, assegnatari⟩ := di
  rw [← assegnatari, written.1.unique decodes]

theorem rappresenta_assegna {a : LeMieAttivita} {final : Store} (rep : Rappresenta s w)
    (esiste : w.compiti id = some t) (di : DiCompito id d t)
    (decodes : LeMieAttivita.Decodes id d a)
    (written : Delegata id (a.utenti ++ [user]) s d final) :
    Rappresenta final (w.dopo (.assegna id user)) := by
  have some : a.utenti ++ [user] ≠ [] :=
    List.append_ne_nil_of_right_ne_nil _ (List.cons_ne_nil _ _)
  rcases written with ⟨-, rfl⟩ | ⟨none, -⟩
  · simp only [Spazio.dopo, esiste, Option.map_some, Compito.assegna]
    have added : ((a.utenti ++ [user] : List String) : Multiset String) =
        user ::ₘ t.assegnatari := by
      rw [di.assegnatari decodes, Multiset.cons_coe, Multiset.coe_eq_coe]
      exact List.perm_append_singleton user a.utenti
    have affidato : ((a.utenti ++ [user] : List String) : Multiset String) ≠ 0 := by simp
    have di' := diCompito_utenti di affidato
    simp only [added] at di'
    exact rep.putTodo di'
  · exact absurd none some

theorem rappresenta_ritira {a : LeMieAttivita} {final : Store} (rep : Rappresenta s w)
    (esiste : w.compiti id = some t) (di : DiCompito id d t)
    (decodes : LeMieAttivita.Decodes id d a)
    (written : Delegata id (a.utenti.erase user) s d final) :
    Rappresenta final (w.dopo (.ritira id user)) := by
  have fewer : ((a.utenti.erase user : List String) : Multiset String) =
      t.assegnatari.erase user := by
    rw [di.assegnatari decodes, Multiset.coe_erase]
  simp only [Spazio.dopo, esiste, Option.bind_some, Compito.ritira]
  rcases written with ⟨some, rfl⟩ | ⟨none, rfl⟩
  · have affidato : t.assegnatari.erase user ≠ 0 := by
      rw [← fewer]
      simpa using some
    rw [dif_pos affidato]
    have restano : ((a.utenti.erase user : List String) : Multiset String) ≠ 0 := by rwa [fewer]
    have di' := diCompito_utenti di restano
    simp only [fewer] at di'
    exact rep.putTodo di'
  · rw [dif_neg (by simp [← fewer, none])]
    exact rep.eraseTodo.congr fun c other => Store.get_erase_put

/-- A call that has written is an event of its own kind. -/
theorem event_of_call {call : TeamCall} {history : Storia} {final : Store}
    {calls : List (Exchange firestore Thrown)} {out : Except Thrown Unit}
    (rep : Rappresenta s w) (shown : ∀ id d, Letto history id d → ∃ t, DiCompito id d t)
    (allowed : DallePagine history s call) (run : Runs network call.process s calls out final)
    (wrote : HaScritto calls) (whole : Compiuta calls) :
    ∃ e, Significa w call e ∧ Rappresenta final (w.dopo e) := by
  match call with
  | .suProgetto (.membro (.unisciti user codice)) =>
    obtain ⟨id, d, found, code, rfl⟩ := scritto_unisciti run wrote
    obtain ⟨g, esiste, di⟩ := rep.gruppo found
    have same : g.codice = codice := by
      obtain ⟨p, written, codice', -⟩ := di
      have read := written.1.codice
      rw [code] at read
      cases read
      exact codice'.symm
    refine ⟨.entra id user, same ▸ .unisciti esiste, ?_⟩
    simp only [Spazio.dopo, esiste, Option.map_some]
    exact rep.putProgetto (diGruppo_entra di user)
  | .suProgetto (.membro (.abbandona userId id)) =>
    obtain ⟨user, d, rfl, found, unread | ⟨xs, read, left⟩⟩ := scritto_abbandona run wrote whole
    · obtain ⟨g, -, di⟩ := rep.gruppo found
      obtain ⟨xs, read, -⟩ := partecipantiDi_esce di user
      exact absurd read (unread xs)
    · obtain ⟨g, esiste, di⟩ := rep.gruppo found
      exact ⟨.esce id user, .abbandona esiste, rappresenta_esce rep esiste di read left⟩
  | .suProgetto (.aggiorna vm id nome descrizione dataScadenza priorita completato voto
      dataConsegna) =>
    obtain ⟨d, progetto, found, decodes, rfl⟩ := scritto_aggiorna run wrote
    obtain ⟨g, esiste, p, written, codice, -, -, membri⟩ := rep.gruppo found
    cases written.1.unique decodes
    refine ⟨.modifica id nome completato, .aggiorna esiste, ?_⟩
    simp only [Spazio.dopo, esiste, Option.map_some]
    exact rep.putProgetto ⟨_, progettoScritto_mappa id _, codice, rfl, rfl, membri⟩
  | .addProgetto vm now progettoId uuid nome descrizione dataScadenza priorita partecipanti =>
    obtain ⟨id, fresh, rfl⟩ := scritto_addProgetto run wrote
    have abitato := (List.toFinset_nonempty_iff _).mpr allowed
    refine ⟨_, .addProgetto (rep.nuovoGruppo fresh) abitato, ?_⟩
    exact rep.putProgetto ⟨_, progettoScritto_mappa id _, rfl, rfl, rfl, rfl⟩
  | .getAttivitaByProgettoId progettoId =>
    exact absurd wrote (runs_quiet_unwritten (quiet_getAttivita progettoId) run)
  | .addTodo zone oggi now titolo descrizione dataScadenza completato proprietario progetto
      priorita =>
    obtain ⟨intitolato, id, fresh, rfl⟩ := scritto_addTodo run wrote
    refine ⟨_, .addTodo (rep.nuovoCompito fresh) intitolato (by simp), ?_⟩
    exact rep.putTodo ⟨_, attivitaScritta_mappa id _, rfl, rfl, rfl, rfl⟩
  | .updateTodo zone oggi now id titolo descrizione dataScadenza dataCreazione progetto utenti
      completato priorita =>
    obtain ⟨intitolato, rfl⟩ := scritto_updateTodo run wrote
    obtain ⟨d, a, letto, decodes, -, rfl⟩ := allowed
    obtain ⟨t, di⟩ := shown id d letto
    have affidato : (a.utenti : Multiset String) ≠ 0 := di.assegnatari decodes ▸ t.affidato
    exact ⟨_, .updateTodo intitolato affidato,
      rep.putTodo ⟨_, attivitaScritta_mappa id _, rfl, rfl, rfl, rfl⟩⟩
  | .updateDataScadenzaTodo now attivita dataScadenzaProgetto =>
    obtain ⟨id, d, letto, decodes⟩ := allowed
    obtain rfl := scritto_updateDataScadenzaTodo decodes.id run wrote
    obtain ⟨t, di⟩ := shown id d letto
    have affidato : (attivita.utenti : Multiset String) ≠ 0 := di.assegnatari decodes ▸ t.affidato
    have intitolato : attivita.titolo ≠ "" := by
      obtain ⟨b, written, -, titolo, -⟩ := di
      rw [← written.1.unique decodes, titolo]
      exact t.intitolato
    exact ⟨_, .updateDataScadenzaTodo decodes.id intitolato affidato,
      rep.putTodo ⟨_, attivitaScritta_mappa id _, rfl, rfl, rfl, rfl⟩⟩
  | .completeTodo id completato =>
    obtain ⟨d, found, rfl⟩ := scritto_completeTodo run wrote
    obtain ⟨t, esiste, di⟩ := rep.compito found
    refine ⟨.completa id completato, .completeTodo esiste, ?_⟩
    simp only [Spazio.dopo, esiste, Option.map_some]
    exact rep.putTodo (diCompito_completato di completato)
  | .delega id (.aggiungi user) =>
    obtain ⟨d, a, found, decodes, -, written⟩ := scritto_delega run wrote whole
    obtain ⟨t, esiste, di⟩ := rep.compito found
    exact ⟨_, .aggiungi esiste, rappresenta_assegna rep esiste di decodes written⟩
  | .delega id (.rimuovi user) =>
    obtain ⟨d, a, found, decodes, assigned, written⟩ := scritto_delega run wrote whole
    obtain ⟨t, esiste, di⟩ := rep.compito found
    have assegnato : user ∈ t.assegnatari := by
      rw [di.assegnatari decodes]
      exact assigned user rfl
    exact ⟨_, .rimuovi esiste assegnato, rappresenta_ritira rep esiste di decodes written⟩
  | .deleteTodo id =>
    obtain rfl := scritto_deleteTodo run wrote
    exact ⟨_, .deleteTodo, rep.eraseTodo⟩

end

/-! ## Whole histories -/

theorem shown_compiti {call : TeamCall} {history : Storia} {s final : Store} {w : Lavoro}
    {calls : List (Exchange firestore Thrown)} {out : Except Thrown Unit} (rep : Rappresenta s w)
    (shown : ∀ id d, Letto history id d → ∃ t, DiCompito id d t)
    (run : Runs network call.process s calls out final) (id : String) (d : Document)
    (letto : Letto (⟨call, calls⟩ :: history) id d) : ∃ t, DiCompito id d t := by
  obtain ⟨entry, member, progettoId, docs, listing, asked, listed⟩ := letto
  rcases List.mem_cons.mp member with rfl | earlier
  · cases listing
    have stored := runs_quiet_query (quiet_getAttivita progettoId) run asked listed
    obtain ⟨t, -, di⟩ := rep.compito stored
    exact ⟨t, di⟩
  · exact shown id d ⟨entry, earlier, progettoId, docs, listing, asked, listed⟩

/-- The history is that of a workspace, the database holds it, and the tasks that
have been shown were tasks of it. -/
def Narrata (history : Storia) (s : Store) : Prop :=
  ∃ w, Svolgimento history w ∧ Rappresenta s w ∧ ∀ id d, Letto history id d → ∃ t, DiCompito id d t

theorem Narrata.call {call : TeamCall} {history : Storia} {s final : Store}
    {calls : List (Exchange firestore Thrown)} {out : Except Thrown Unit} (told : Narrata history s)
    (allowed : DallePagine history s call) (run : Runs network call.process s calls out final)
    (whole : Compiuta calls) : Narrata (⟨call, calls⟩ :: history) final := by
  obtain ⟨w, told, rep, shown⟩ := told
  by_cases wrote : HaScritto calls
  · obtain ⟨e, means, rep'⟩ := event_of_call rep shown allowed run wrote whole
    exact ⟨w.dopo e, .evento told wrote means, rep', shown_compiti rep shown run⟩
  · cases runs_senza_scrivere run wrote
    exact ⟨w, .nulla told wrote, rep, shown_compiti rep shown run⟩

end TeamSync.Team
