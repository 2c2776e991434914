import Mathlib.Algebra.Order.Field.Basic
import Mathlib.Algebra.Order.Ring.Rat
import TeamSync.Library.Guarded
import TeamSync.Projects.Format
import TeamSync.Team.Codes
import TeamSync.Team.Counts

/-! The progress that the home page shows, over the actions of one user.

Every action runs to its end, and no call fails. Projects are left and edited
through view models of their own, so that only what the home page loads when it
is opened again reaches the shared one.
-/

set_option autoImplicit false

namespace TeamSync.Screens.HomeProgress

open Effects Projects Team

/-- The shared view model, with the list that only the home page shows. -/
structure HomeViewModel extends ProgettoViewModel where
  progettiCompletati : List Progetto

def caricaProgettiUtente (vm : HomeViewModel) (userId : String) : App HomeViewModel := do
  let base ← vm.toProgettoViewModel.caricaProgettiUtente userId
  pure { vm with toProgettoViewModel := base }

def caricaProgettiCompletatiUtente (vm : HomeViewModel) (userId : String) : App HomeViewModel := do
  let progetti ← ProgettoViewModel.caricaProgettiCompletatiUtente userId
  pure { vm with progettiCompletati := progetti }

def caricaTutto (vm : HomeViewModel) (userId : String) : App HomeViewModel := do
  -- both loads. They only read, so that it does not matter which one ends first
  let vm ← caricaProgettiUtente vm userId
  caricaProgettiCompletatiUtente vm userId

def initState (vm : HomeViewModel) : App HomeViewModel :=
  -- `initState` of the home page
  match vm.utenteCorrenteId with
  | some userId => caricaProgettiUtente vm userId
  | none => pure vm

def init (userId : String) : App HomeViewModel :=
  -- `_init` of a new view model whose user is signed in
  caricaTutto ⟨⟨none, [], some userId, [], false⟩, []⟩ userId

inductive Azione where
  | apriHome
  | sync
  | crea (now : DateTime) (progettoId uuid nome descrizione : String) (dataScadenza : DateTime)
      (priorita : Priorita)
  | unisciti (codice : String)
  | abbandona (progettoId : String)
  -- `altro` is the view model of the page
  | salva (altro : ProgettoViewModel) (progettoId nome descrizione : String)
      (dataScadenza : DateTime) (priorita : Priorita) (completato : Bool) (voto : String)
      (dataConsegna : DateTime)

/-- What an action does, up to the home page that it leads back to. -/
def Azione.programma (userId : String) (vm : HomeViewModel) : Azione → App HomeViewModel
  | .apriHome => initState vm
  | .sync => caricaTutto vm userId
  | .crea now progettoId uuid nome descrizione dataScadenza priorita => do
    let base ← vm.toProgettoViewModel.addProgetto now progettoId uuid nome descrizione dataScadenza
      priorita [userId]
    -- `onSuccess`, which is called as no call fails, and the home page that it opens
    let vm ← caricaTutto { vm with toProgettoViewModel := base } userId
    initState vm
  | .unisciti codice => do
    let (success, errore) ← ProgettoViewModel.aggiungiPartecipanteConCodice userId codice
    let vm := { vm with erroreAggiungiProgetto := errore }
    if success then caricaTutto vm userId else pure vm
  | .abbandona progettoId => do
    ProgettoViewModel.abbandonaProgetto (some userId) progettoId
    initState vm
  | .salva altro progettoId nome descrizione dataScadenza priorita completato voto
      dataConsegna => do
    discard (altro.aggiornaProgetto progettoId nome descrizione dataScadenza priorita completato
      voto dataConsegna)
    initState vm

structure Stato where
  store : Store
  vm : HomeViewModel

/-- One action. One that throws leaves the view model as it was. -/
def Passo (userId : String) (s : Stato) (azione : Azione) (final : Stato) : Prop :=
  ∃ calls out, Runs service (azione.programma userId s.vm) s.store calls out final.store ∧
    final.vm = match out with
      | .ok vm => vm
      | .error _ => s.vm

def Reale (vm : HomeViewModel) : Prop :=
  (vm.progettiCompletati.map Progetto.id).Perm
    ((vm.progetti.filter fun p => p.completato).map Progetto.id)

/-- The value of the indicator of `SezioneProgressiProgetti`, before it is rounded to a double. -/
def progress (progettiCompletati progettiUtente : Nat) : ℚ :=
  if progettiUtente > 0 then progettiCompletati / progettiUtente else 0

theorem Reale.length_le {vm : HomeViewModel} (real : Reale vm) :
    vm.progettiCompletati.length ≤ vm.progetti.length := by
  have same : vm.progettiCompletati.length = (vm.progetti.filter fun p => p.completato).length := by
    simpa using real.length_eq
  rw [same]
  exact List.length_filter_le _ _

theorem progress_le_one {m n : Nat} (fewer : m ≤ n) : progress m n ≤ 1 := by
  unfold progress
  split
  · exact div_le_one_of_le₀ (by exact_mod_cast fewer) (Nat.cast_nonneg n)
  · exact zero_le_one

def Compiuto (userId : String) (s : Store) (id : String) : Prop :=
  ∃ d, s.get .progetti id = some d ∧ d.partecipa userId ∧ d "completato" = some (.bool true)

/-- No completed project is left, and none of the user's is saved with the other
value of `completato`. -/
def CompiutiIntatti (userId : String) (s : Stato) : Azione → Prop
  | .abbandona id => ¬ Compiuto userId s.store id
  | .salva _ id _ _ _ _ completato _ _ => s.store.partecipa id userId →
      (Compiuto userId s.store id ↔ completato = true)
  | _ => True

/-! ## The completed projects of the database -/

section
variable {userId id : String} {s t : Store}

def compiuti (userId : String) (s : Store) : List (Option String) :=
  (s.trovati .progetti [.arrayContains "partecipanti" (.string userId),
    .isEqualTo "completato" (.bool true)]).map fun doc => some doc.1

theorem mem_compiuti : some id ∈ compiuti userId s ↔ Compiuto userId s id := by
  simp [compiuti, Store.mem_trovati, Filter.holds, Compiuto, Document.partecipa,
    Document.partecipanti]

theorem nodup_compiuti : (compiuti userId s).Nodup := by
  have keys : ((s.trovati .progetti [.arrayContains "partecipanti" (.string userId),
      .isEqualTo "completato" (.bool true)]).map Prod.fst).Nodup := Collection.nodup_select _ _
  simpa [compiuti, Function.comp_def] using keys.map (Option.some_injective String)

theorem perm_compiuti : (compiuti userId s).Perm (compiuti userId t) ↔
    ∀ id, Compiuto userId s id ↔ Compiuto userId t id := by
  rw [List.perm_ext_iff_of_nodup nodup_compiuti nodup_compiuti]
  constructor
  · intro same id
    rw [← mem_compiuti, ← mem_compiuti]
    exact same (some id)
  · intro same found
    cases found with
    | none => simp [compiuti]
    | some id => exact mem_compiuti.trans ((same id).trans mem_compiuti.symm)

theorem compiuto_congr (same : t.get .progetti id = s.get .progetti id) :
    Compiuto userId t id ↔ Compiuto userId s id := by
  rw [Compiuto, Compiuto, same]

theorem forall_compiuto_iff
    (others : ∀ other, other ≠ id → t.get .progetti other = s.get .progetti other) :
    (∀ other, Compiuto userId s other ↔ Compiuto userId t other) ↔
      (Compiuto userId s id ↔ Compiuto userId t id) := by
  refine ⟨fun same => same id, fun same other => ?_⟩
  by_cases here : other = id
  · exact here ▸ same
  · exact (compiuto_congr (others other here)).symm

theorem ids_of_scritti {docs : List (String × Document)} {progetti : List Progetto}
    (decoded : List.Forall₂ (fun doc p => ProgettoScritto doc.1 doc.2 p) docs progetti) :
    progetti.map Progetto.id = docs.map fun doc => some doc.1 := by
  induction decoded with
  | nil => rfl
  | cons written _ ih => rw [List.map_cons, List.map_cons, ih, written.1.id]

end

/-! ## What the loads leave -/

/-- The view model is the user's, and the completed projects of its list are
those of the database. -/
structure Aggiornata (userId : String) (s : Stato) : Prop where
  scritti : benScritti.invariante s.store
  utente : s.vm.utenteCorrenteId = some userId
  progetti : (s.vm.progetti.filter fun p => p.completato).map Progetto.id =
    compiuti userId s.store

section
variable {userId : String} {s : Store} {vm : HomeViewModel}

theorem exists_contaAttivita (progetti : List Progetto) (s : Store) :
    ∃ attivitaMap, Answers service (ProgettoViewModel.contaAttivita progetti) s attivitaMap := by
  induction progetti with
  | nil => exact ⟨[], .done _ s⟩
  | cons progetto rest ih =>
    obtain ⟨attivitaMap, counted⟩ := ih
    exact ⟨_, .bind (answers_countOr0 _ s) (counted.bind (.done _ s))⟩

theorem answers_caricaProgettiUtente (base : ProgettoViewModel) {progetti : List Progetto}
    (decoded : List.Forall₂ (fun doc p => ProgettoScritto doc.1 doc.2 p)
      (s.trovati .progetti [.arrayContains "partecipanti" (.string userId)]) progetti) :
    ∃ attivitaMap, Answers service (base.caricaProgettiUtente userId) s { base with
      progetti := progetti, attivitaProgetti := attivitaMap, isLoading := false } := by
  have listed : Answers service (RepositoryProgetto.getProgettiUtente userId) s progetti :=
    .rescue (answers_progetti decoded)
  obtain ⟨attivitaMap, counted⟩ := exists_contaAttivita progetti s
  exact ⟨attivitaMap, listed.bind (counted.bind (.done _ s))⟩

theorem exists_caricaProgettiUtente (holds : benScritti.invariante s)
    (utente : vm.utenteCorrenteId = some userId) :
    ∃ caricato, Answers service (caricaProgettiUtente vm userId) s caricato ∧
      Aggiornata userId ⟨s, caricato⟩ ∧
      caricato.progettiCompletati = vm.progettiCompletati := by
  obtain ⟨progetti, decoded⟩ := exists_progetti holds
    [.arrayContains "partecipanti" (.string userId)]
  obtain ⟨attivitaMap, loaded⟩ := answers_caricaProgettiUtente vm.toProgettoViewModel decoded
  exact ⟨_, loaded.bind (.done _ s),
    ⟨holds, utente, ids_of_scritti (decoded_completati decoded)⟩, rfl⟩

theorem answers_initState (holds : benScritti.invariante s)
    (utente : vm.utenteCorrenteId = some userId) :
    ∃ aperto, Answers service (initState vm) s aperto ∧ Aggiornata userId ⟨s, aperto⟩ ∧
      aperto.progettiCompletati = vm.progettiCompletati := by
  simp only [initState, utente]
  exact exists_caricaProgettiUtente holds utente

theorem Aggiornata.reale_iff (fresh : Aggiornata userId ⟨s, vm⟩) :
    Reale vm ↔ (vm.progettiCompletati.map Progetto.id).Perm (compiuti userId s) := by
  rw [Reale, fresh.progetti]

theorem answers_caricaTutto (vm : HomeViewModel) (holds : benScritti.invariante s)
    (utente : vm.utenteCorrenteId = some userId) :
    ∃ caricato, Answers service (caricaTutto vm userId) s caricato ∧
      Aggiornata userId ⟨s, caricato⟩ ∧ Reale caricato := by
  obtain ⟨base, loaded, fresh, -⟩ := exists_caricaProgettiUtente holds utente
  obtain ⟨progetti, decoded⟩ := exists_progetti holds
    [.arrayContains "partecipanti" (.string userId)]
  have completed : Answers service (ProgettoViewModel.caricaProgettiCompletatiUtente userId) s
      (progetti.filter fun p => p.completato) :=
    .rescue (answers_progetti (decoded_completati decoded))
  have later : Aggiornata userId
      ⟨s, { base with progettiCompletati := progetti.filter fun p => p.completato }⟩ :=
    ⟨holds, fresh.utente, fresh.progetti⟩
  refine ⟨_, loaded.bind (completed.bind (.done _ s)), later, later.reale_iff.mpr ?_⟩
  exact .of_eq (ids_of_scritti (decoded_completati decoded))

theorem riaperta {before : Stato} (fresh : Aggiornata userId before) {t : Store}
    (holds : benScritti.invariante t) :
    ∃ aperto, Answers service (initState before.vm) t aperto ∧ Aggiornata userId ⟨t, aperto⟩ ∧
      (Reale before.vm → (Reale aperto ↔
        ∀ id, Compiuto userId before.store id ↔ Compiuto userId t id)) := by
  obtain ⟨aperto, opened, now, same⟩ := answers_initState holds fresh.utente
  refine ⟨aperto, opened, now, fun real => ?_⟩
  have shown : (before.vm.progettiCompletati.map Progetto.id).Perm
      (compiuti userId before.store) := fresh.reale_iff.mp real
  rw [now.reale_iff, same, ← perm_compiuti]
  exact ⟨fun now => shown.symm.trans now, fun same => shown.trans same⟩

end

/-! ## What an action leaves -/

section
variable {userId id : String} {s : Store} {d : Document}

theorem yields_abbandona_missing (userId : String) (missing : s.get .progetti id = none) :
    ∃ e, Yields service (ProgettoViewModel.abbandonaProgetto (some userId) id) s (.error e) s := by
  have found := answers_get .progetti id s
  rw [missing] at found
  exact ⟨_, .rescue_error (found.bind (.bind_error (.raise _ s))) (.raise _ s)⟩

theorem yields_abbandona (userId : String) (holds : benScritti.invariante s)
    (stored : s.get .progetti id = some d) :
    ∃ t, Yields service (ProgettoViewModel.abbandonaProgetto (some userId) id) s (.ok ()) t ∧
      ¬ t.partecipa id userId ∧
      ∀ other, other ≠ id → t.get .progetti other = s.get .progetti other := by
  obtain ⟨p, written⟩ := progettoScritto_esce userId (holds .progetti id d stored).choose_spec
  have raw : (d.esce userId) "partecipanti" = some (.array (d.esce userId).partecipanti) :=
    Document.esce_array d userId
  have read : RepositoryProgetto.partecipantiDi (d.esce userId) = .ok p.partecipanti := by
    have decoded := written.1.partecipanti
    rw [raw] at decoded
    simp only [RepositoryProgetto.partecipantiDi, raw, decoded]
  have left : ¬ (s.put .progetti id (d.esce userId)).partecipa id userId := by
    simp [Store.partecipa_put]
  have counted : Answers service (RepositoryProgetto.getPartecipantiDelProgetto id)
      (s.put .progetti id (d.esce userId)) p.partecipanti := by
    refine .bind (answers_get .progetti id _) ?_
    rw [Store.get_put_self]
    dsimp only
    rw [read]
    exact .done _ _
  have found := answers_get .progetti id s
  rw [stored] at found
  by_cases empty : p.partecipanti.isEmpty = true
  · refine ⟨(s.put .progetti id (d.esce userId)).erase .progetti id, .rescue (.bind found
      (.bind (yields_update stored _) (.bind counted ?_))), ?_, ?_⟩
    · simp only [empty, if_true]
      exact .bind (.rescue (yields_perform fun _ => rfl)) (yields_perform fun _ => rfl)
    · simp [Store.partecipa_erase]
    · intro other differ
      rw [Store.get_erase_of_ne differ, Store.get_put_of_ne differ]
  · refine ⟨s.put .progetti id (d.esce userId), .rescue (.bind found
      (.bind (yields_update stored _) (.bind counted ?_))), left, ?_⟩
    · simp only [empty]
      exact yields_perform fun _ => rfl
    · exact fun other differ => Store.get_put_of_ne differ

theorem exists_ricarica (holds : benScritti.invariante s) (altro : ProgettoViewModel) :
    ∃ caricato, Answers service (match altro.utenteCorrenteId with
      | some utenteCorrenteId => altro.caricaProgettiUtente utenteCorrenteId
      | none => pure altro) s caricato := by
  cases altro.utenteCorrenteId with
  | none => exact ⟨altro, .done _ s⟩
  | some user =>
    obtain ⟨progetti, decoded⟩ := exists_progetti holds
      [.arrayContains "partecipanti" (.string user)]
    obtain ⟨attivitaMap, loaded⟩ := answers_caricaProgettiUtente altro decoded
    exact ⟨_, loaded⟩

theorem yields_salva (userId id : String) (holds : benScritti.invariante s)
    (altro : ProgettoViewModel)
    (nome descrizione : String) (dataScadenza : DateTime) (priorita : Priorita)
    (completato : Bool) (voto : String) (dataConsegna : DateTime) :
    ∃ caricato t, Yields service (altro.aggiornaProgetto id nome descrizione dataScadenza priorita
        completato voto dataConsegna) s (.ok caricato) t ∧
      (Compiuto userId t id ↔ s.partecipa id userId ∧ completato = true) ∧
      ∀ other, other ≠ id → t.get .progetti other = s.get .progetti other := by
  cases stored : s.get .progetti id with
  | none =>
    have found := answers_get .progetti id s
    rw [stored] at found
    refine ⟨altro, s, .bind (.rescue (found.bind (.done none s))) (.done _ s), ?_, fun _ _ => rfl⟩
    simp [Compiuto, Store.partecipa, stored]
  | some d =>
    obtain ⟨p, written⟩ := holds .progetti id d stored
    obtain ⟨m, same⟩ : ∃ m, m = modificato p nome descrizione dataScadenza priorita completato voto
      dataConsegna := ⟨_, rfl⟩
    have target : m.id = some id := same ▸ written.1.id
    have listed : (RepositoryProgetto.aggiornaProgettoMap m).partecipanti = d.partecipanti :=
      same ▸ partecipanti_modificato written.1 ..
    have marked : RepositoryProgetto.aggiornaProgettoMap m "completato" = some (.bool completato) :=
      same ▸ rfl
    have put : Yields service (RepositoryProgetto.aggiornaProgetto m) s (.ok ())
        (s.put .progetti id (RepositoryProgetto.aggiornaProgettoMap m)) := by
      rw [RepositoryProgetto.aggiornaProgetto, target]
      exact yields_perform fun _ => rfl
    have kept : benScritti.invariante
        (s.put .progetti id (RepositoryProgetto.aggiornaProgettoMap m)) :=
      Regola.invariante_put holds ⟨_, progettoScritto_mappa id m⟩
    obtain ⟨caricato, loaded⟩ := exists_ricarica kept altro
    subst same
    refine ⟨caricato, _, (answers_getProgettoById stored written.1).bind (put.bind loaded), ?_,
      fun other differ => Store.get_put_of_ne differ⟩
    rw [Compiuto, Store.partecipa_of_get stored, Store.get_put_self]
    simp [Document.partecipa, listed, marked]

theorem runs_addProgetto {base : ProgettoViewModel} {now dataScadenza : DateTime}
    {progettoId uuid nome descrizione : String} {priorita : Priorita} {partecipanti : List String}
    {calls : List (Exchange firestore Thrown)} {out : Except Thrown ProgettoViewModel} {t : Store}
    (run : Runs service (base.addProgetto now progettoId uuid nome descrizione dataScadenza priorita
      partecipanti) s calls out t) :
    ∃ added, out = .ok added ∧ added.utenteCorrenteId = base.utenteCorrenteId := by
  obtain ⟨added, same, created⟩ := runs_crea run.faulty
  refine ⟨added, same, ?_⟩
  cases created with
  | nonAggiunto | interrotto | aggiunto => rfl

end

/-! ## One action -/

section
variable {userId : String} {s final : Stato} {azione : Azione}

theorem quiet_carica (vm : HomeViewModel) (userId : String) :
    Quiet (caricaProgettiUtente vm userId) :=
  .bind (quiet_caricaProgettiUtente _ userId) fun _ => trivial

theorem quiet_initState (vm : HomeViewModel) : Quiet (initState vm) := by
  unfold initState
  split
  · exact quiet_carica vm _
  · trivial

theorem quiet_caricaTutto (vm : HomeViewModel) (userId : String) : Quiet (caricaTutto vm userId) :=
  .bind (quiet_carica vm userId) fun _ =>
    .bind (quiet_lista _ _ _) fun _ => trivial

theorem rispetta_programma (userId : String) (vm : HomeViewModel) (azione : Azione) :
    Rispetta benScritti (azione.programma userId vm) fun _ => True := by
  cases azione with
  | apriHome => exact rispetta_of_quiet (quiet_initState vm)
  | sync => exact rispetta_of_quiet (quiet_caricaTutto vm userId)
  | crea =>
    exact .bind (rispetta_addProgetto _ _ _ _ _ _ _ _ _ fun _ => ⟨_, progettoScritto_mappa _ _⟩)
      fun _ _ => .bind (rispetta_of_quiet (quiet_caricaTutto _ userId)) fun _ _ =>
        rispetta_of_quiet (quiet_initState _)
  | unisciti codice =>
    refine .bind (rispetta_unisciti userId codice) fun answer _ => ?_
    obtain ⟨success, errore⟩ := answer
    cases success with
    | true => exact rispetta_of_quiet (quiet_caricaTutto _ userId)
    | false => trivial
  | abbandona progettoId =>
    exact .bind (rispetta_abbandonaProgetto _ progettoId) fun _ _ =>
      rispetta_of_quiet (quiet_initState vm)
  | salva altro =>
    exact .bind (.map (rispetta_aggiornaProgetto altro ..) fun _ _ => trivial) fun _ (_ : True) =>
      rispetta_of_quiet (quiet_initState vm)

theorem benScritti_runs {A : Type} {p : App A} {s t : Store}
    {calls : List (Exchange firestore Thrown)} {out : Except Thrown A}
    (run : Runs service p s calls out t) (respects : Rispetta benScritti p fun _ => True)
    (holds : benScritti.invariante s) : benScritti.invariante t :=
  (run.faulty.respects benScritti.network_fulfils (fun _ _ _ id _ written => written id) respects
    holds).1

theorem Passo.final_eq {t : Store} {vm : HomeViewModel} (passo : Passo userId s azione final)
    (yields : Yields service (azione.programma userId s.vm) s.store (.ok vm) t) :
    final = ⟨t, vm⟩ := by
  obtain ⟨calls, out, run, shown⟩ := passo
  obtain ⟨rfl, same⟩ := yields.only run
  cases final
  cases same
  cases shown
  rfl

theorem passo_crea {now dataScadenza : DateTime} {progettoId uuid nome descrizione : String}
    {priorita : Priorita} (fresh : Aggiornata userId s)
    (passo : Passo userId s (.crea now progettoId uuid nome descrizione dataScadenza priorita)
      final) : Aggiornata userId final ∧ Reale final.vm := by
  obtain ⟨calls, out, run, shown⟩ := passo
  have kept : benScritti.invariante final.store :=
    benScritti_runs run (rispetta_programma ..) fresh.scritti
  rcases runs_bind_iff.mp run with ⟨e, added, -⟩ | ⟨base, first, rest, mid, added, after, -⟩
  · obtain ⟨_, same, -⟩ := runs_addProgetto added
    cases same
  obtain ⟨_, same, user⟩ := runs_addProgetto added
  cases same
  have written : benScritti.invariante mid := benScritti_runs added
    (rispetta_addProgetto _ _ _ _ _ _ _ _ _ fun _ => ⟨_, progettoScritto_mappa _ _⟩) fresh.scritti
  obtain ⟨caricato, loaded, now, real⟩ := answers_caricaTutto
    { s.vm with toProgettoViewModel := base } written (user.trans fresh.utente)
  obtain ⟨aperto, opened, later, agrees⟩ := riaperta now written
  obtain ⟨rfl, same⟩ := (loaded.bind opened).only after
  obtain ⟨store, vm⟩ := final
  cases same
  cases shown
  exact ⟨later, (agrees real).mpr fun _ => Iff.rfl⟩

theorem passo_unisciti {codice : String} (fresh : Aggiornata userId s)
    (passo : Passo userId s (.unisciti codice) final) :
    Aggiornata userId final ∧ (Reale s.vm → Reale final.vm) := by
  obtain ⟨success, errore, t, joined, refused, -⟩ := yields_join userId codice s.store
  cases success with
  | false =>
    cases refused rfl
    cases passo.final_eq (joined.bind (.done _ _))
    exact ⟨⟨fresh.scritti, fresh.utente, fresh.progetti⟩, id⟩
  | true =>
    obtain ⟨calls, ran⟩ := joined.ends
    have written : benScritti.invariante t :=
      benScritti_runs ran (rispetta_unisciti userId codice) fresh.scritti
    obtain ⟨caricato, loaded, now, real⟩ := answers_caricaTutto
      { s.vm with erroreAggiungiProgetto := errore } written fresh.utente
    cases passo.final_eq (joined.bind loaded)
    exact ⟨now, fun _ => real⟩

theorem passo_abbandona {progettoId : String} (fresh : Aggiornata userId s)
    (passo : Passo userId s (.abbandona progettoId) final) :
    Aggiornata userId final ∧
      (Reale s.vm → (Reale final.vm ↔ ¬ Compiuto userId s.store progettoId)) := by
  cases stored : s.store.get .progetti progettoId with
  | none =>
    have absent : ¬ Compiuto userId s.store progettoId := by simp [Compiuto, stored]
    obtain ⟨e, failed⟩ := yields_abbandona_missing userId stored
    obtain ⟨calls, out, run, shown⟩ := passo
    obtain ⟨rfl, same⟩ := (failed.bind_error).only run
    obtain ⟨store, vm⟩ := final
    cases same
    cases shown
    exact ⟨fresh, fun real => iff_of_true real absent⟩
  | some d =>
    obtain ⟨t, left, gone, others⟩ := yields_abbandona userId fresh.scritti stored
    obtain ⟨calls, ran⟩ := left.ends
    obtain ⟨aperto, opened, now, agrees⟩ := riaperta fresh
      (benScritti_runs ran (rispetta_abbandonaProgetto _ _) fresh.scritti)
    cases passo.final_eq (left.bind opened)
    have ended : ¬ Compiuto userId t progettoId :=
      fun ⟨d, stored, takesPart, _⟩ => gone ⟨d, stored, takesPart⟩
    refine ⟨now, fun real => ?_⟩
    rw [agrees real, forall_compiuto_iff others, iff_false_right ended]

theorem passo_salva {altro : ProgettoViewModel} {progettoId nome descrizione voto : String}
    {dataScadenza dataConsegna : DateTime} {priorita : Priorita} {completato : Bool}
    (fresh : Aggiornata userId s)
    (passo : Passo userId s (.salva altro progettoId nome descrizione dataScadenza priorita
      completato voto dataConsegna) final) :
    Aggiornata userId final ∧ (Reale s.vm → (Reale final.vm ↔
      (s.store.partecipa progettoId userId →
        (Compiuto userId s.store progettoId ↔ completato = true)))) := by
  obtain ⟨caricato, t, saved, marked, others⟩ := yields_salva userId progettoId fresh.scritti
    altro nome descrizione dataScadenza priorita completato voto dataConsegna
  obtain ⟨calls, ran⟩ := saved.ends
  obtain ⟨aperto, opened, now, agrees⟩ := riaperta fresh
    (benScritti_runs ran (rispetta_aggiornaProgetto altro ..) fresh.scritti)
  cases passo.final_eq ((saved.map _).bind opened)
  have takesPart : Compiuto userId s.store progettoId → s.store.partecipa progettoId userId :=
    fun ⟨d, stored, takesPart, _⟩ => ⟨d, stored, takesPart⟩
  refine ⟨now, fun real => ?_⟩
  rw [agrees real, forall_compiuto_iff others, marked]
  constructor
  · intro same member
    rw [same, and_iff_right member]
  · intro same
    constructor
    · intro completed
      exact ⟨takesPart completed, (same (takesPart completed)).mp completed⟩
    · rintro ⟨member, completed⟩
      exact (same member).mpr completed

theorem aggiornata_passo (fresh : Aggiornata userId s) (passo : Passo userId s azione final) :
    Aggiornata userId final ∧
      (Reale s.vm → (Reale final.vm ↔ CompiutiIntatti userId s azione)) := by
  cases azione with
  | apriHome =>
    obtain ⟨aperto, opened, now, agrees⟩ := riaperta fresh fresh.scritti
    cases passo.final_eq opened
    exact ⟨now, fun real => iff_of_true ((agrees real).mpr fun _ => Iff.rfl) trivial⟩
  | sync =>
    obtain ⟨caricato, loaded, now, real⟩ := answers_caricaTutto s.vm fresh.scritti fresh.utente
    cases passo.final_eq loaded
    exact ⟨now, fun _ => iff_of_true real trivial⟩
  | crea =>
    obtain ⟨now, real⟩ := passo_crea fresh passo
    exact ⟨now, fun _ => iff_of_true real trivial⟩
  | unisciti =>
    obtain ⟨now, kept⟩ := passo_unisciti fresh passo
    exact ⟨now, fun real => iff_of_true (kept real) trivial⟩
  | abbandona => exact passo_abbandona fresh passo
  | salva => exact passo_salva fresh passo

end

theorem aggiornata_init {userId : String} {store t : Store} {vm : HomeViewModel}
    {calls : List (Exchange firestore Thrown)} (holds : benScritti.invariante store)
    (loaded : Runs service (init userId) store calls (.ok vm) t) :
    Aggiornata userId ⟨t, vm⟩ ∧ Reale vm := by
  obtain ⟨caricato, answered, fresh, real⟩ := answers_caricaTutto
    ⟨⟨none, [], some userId, [], false⟩, []⟩ holds rfl
  obtain ⟨same, rfl⟩ := answered.only loaded
  cases same
  exact ⟨fresh, real⟩

/-- The progress is real as long as no completed project is left, and no project is
completed or opened again by a save; the first such action leaves a list behind. -/
theorem progress_is_real_iff {ι : Type} [DecidableEq ι] {team : ι → TeamCall}
    {c : Config ι firestore Thrown Store Unit}
    (reach : Reaches network Config.anyStep (start .empty team) c) {userId : String} {t : Store}
    {vm : HomeViewModel} {calls : List (Exchange firestore Thrown)}
    (loaded : Runs service (init userId) c.store calls (.ok vm) t) {s : Stato}
    (run : GuardedRun (Passo userId) (CompiutiIntatti userId) ⟨t, vm⟩ s) :
    (Reale s.vm ∧ s.vm.progettiCompletati.length ≤ s.vm.progetti.length ∧
      progress s.vm.progettiCompletati.length s.vm.progetti.length ≤ 1) ∧
    ∀ azione final, Passo userId s azione final →
      (Reale final.vm ↔ CompiutiIntatti userId s azione) := by
  obtain ⟨fresh, real⟩ := aggiornata_init (benScritti_of_reaches reach) loaded
  obtain ⟨now, next⟩ := run.iff (Aggiornata userId) (fun s => Reale s.vm)
    (fun fresh passo => (aggiornata_passo fresh passo).1)
    (fun fresh real passo => (aggiornata_passo fresh passo).2 real) fresh real
  exact ⟨⟨now, now.length_le, progress_le_one now.length_le⟩, next⟩

/-! ## A project that is left, and one that is completed -/

def creaTesi : Unit → TeamCall := fun _ => creazione "anna" "01234567-89ab-4cde-8f01-23456789abcd"

def completaTesi : Azione := .salva ⟨none, [], none, [], false⟩ "p" "Tesi" ""
  ⟨microsPerDay, false⟩ .media true "30" ⟨microsPerDay, false⟩

theorem progress_is_real_iff_anna : ∃ c vm t s calls,
    (start .empty creaTesi).run network [((), .inr "p")] = some c ∧
    Runs service (init "anna") c.store calls (.ok vm) t ∧ vm.progetti.length = 1 ∧
    Passo "anna" ⟨t, vm⟩ (.abbandona "p") s ∧ s.vm.progetti.length = 0 ∧ Reale s.vm := by
  obtain ⟨c, vm, t, s, calls, ran, opened, one, passo, gone, unfinished⟩ : ∃ c vm t s calls,
      (start .empty creaTesi).run network [((), .inr "p")] = some c ∧
      Runs service (init "anna") c.store calls (.ok vm) t ∧ vm.progetti.length = 1 ∧
      Passo "anna" ⟨t, vm⟩ (.abbandona "p") s ∧ s.vm.progetti.length = 0 ∧
      CompiutiIntatti "anna" ⟨t, vm⟩ (.abbandona "p") := by
    refine ⟨_, _, _, ⟨_, _⟩, _, rfl, .of_runAlone ["", "", ""] rfl, rfl,
      ⟨_, _, .of_runAlone ["", "", "", "", "", ""] rfl, rfl⟩, rfl, ?_⟩
    rintro ⟨d, stored, -, marked⟩
    cases stored
    cases marked
  have reach : Reaches network Config.anyStep (start .empty creaTesi) c :=
    .of_run _ ran (Config.along_anyStep _ _)
  exact ⟨c, vm, t, s, calls, ran, opened, one, passo, gone,
    (progress_is_real_iff reach opened (.single ⟨_, unfinished, passo⟩)).1.1⟩

/-- Anna saves the project as completed, and the home page that she opens then does not count it. -/
theorem completed_project_not_counted : ∃ c vm t s calls,
    (start .empty creaTesi).run network [((), .inr "p")] = some c ∧
    Runs service (init "anna") c.store calls (.ok vm) t ∧ Passo "anna" ⟨t, vm⟩ completaTesi s ∧
    s.vm.progetti.map (fun p => (p.id, p.completato)) = [(some "p", true)] ∧
    s.vm.progettiCompletati = [] ∧ ¬ Reale s.vm := by
  refine ⟨_, _, _, ⟨_, _⟩, _, rfl, .of_runAlone ["", "", ""] rfl,
    ⟨_, _, .of_runAlone ["", "", "", ""] rfl, rfl⟩, rfl, rfl, fun real => ?_⟩
  cases real.length_eq

end TeamSync.Screens.HomeProgress
