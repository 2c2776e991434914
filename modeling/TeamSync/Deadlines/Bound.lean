import TeamSync.Deadlines.Calls

/-! No task is due after its project, and which saves keep it so. -/

set_option autoImplicit false

namespace TeamSync.Deadlines

open Effects Projects Tasks

def Aperta (s : Store) (id : String) (a : LeMieAttivita) : Prop :=
  ∃ d, s.get .todo id = some d ∧ LeMieAttivita.Decodes id d a ∧ a.completato = false

def Presente (s : Store) (progettoId : String) (p : Progetto) : Prop :=
  ∃ d, s.get .progetti progettoId = some d ∧ Progetto.Decodes progettoId d p

/-- The day of every open task is not after the day of its project's deadline. -/
def EntroScadenza (zone : Zone) (s : Store) : Prop :=
  ∀ id a p, Aperta s id a → Presente s a.progetto p →
    a.dataScadenza.day zone ≤ p.dataScadenza.day zone

def InTempo (zone : Zone) (s : Store) (progettoId : String) (date : DateTime) : Prop :=
  ∀ p, Presente s progettoId p → Timestamp.giorno zone date ≤ p.dataScadenza.day zone

/-- The day is not before that of any open task of the project. -/
def CopreLeAperte (zone : Zone) (s : Store) (progettoId : String) (date : DateTime) : Prop :=
  ∀ id a, Aperta s id a → a.progetto = progettoId →
    a.dataScadenza.day zone ≤ Timestamp.giorno zone date

/-- A new deadline covers the open tasks; the date of a saved task is in time
for the stored project, unless the task is completed. -/
def Rispetta (zone : Zone) (s : Store) : PageCall → Prop
  | .modificaProgetto page =>
    ∀ date, page.selectedDate = some date → CopreLeAperte zone s page.projectId date
  | .aggiungiTask dialog _ _ _ _ idProgetto => InTempo zone s idProgetto dialog.dataSelezionata
  | .modificaTask dialog _ _ _ => dialog.todoItem.completato = false →
    InTempo zone s dialog.todoItem.progetto dialog.dataScadenza
  | _ => True

section
variable {zone : Zone} {s : Store} {key progettoId : String} {d : Document}

@[simp] theorem aperta_putProgetto {id : String} {a : LeMieAttivita} :
    Aperta (s.put .progetti key d) id a ↔ Aperta s id a := by
  simp [Aperta, Store.get_put]

@[simp] theorem presente_putTodo {p : Progetto} :
    Presente (s.put .todo key d) progettoId p ↔ Presente s progettoId p := by
  simp [Presente, Store.get_put]

theorem presente_putProgetto {progetto p : Progetto} :
    Presente (s.put .progetti key (RepositoryProgetto.aggiornaProgettoMap progetto)) progettoId p ↔
      if progettoId = key then p = progetto.riletto key else Presente s progettoId p := by
  have written := RepositoryProgetto.decodes_aggiornaProgettoMap key progetto
  unfold Presente
  simp only [Store.get_put, true_and]
  split
  · next same =>
    subst same
    constructor
    · rintro ⟨d, found, decodes⟩
      cases found
      exact decodes.unique written
    · rintro rfl
      exact ⟨_, rfl, written⟩
  · rfl

theorem aperta_putTodo {id : String} {task a : LeMieAttivita} :
    Aperta (s.put .todo key task.toMap) id a ↔
      if id = key then a = task.riletta key ∧ task.completato = false else Aperta s id a := by
  have written := LeMieAttivita.decodes_toMap key task
  unfold Aperta
  simp only [Store.get_put, true_and]
  split
  · next same =>
    subst same
    constructor
    · rintro ⟨d, found, decodes, still⟩
      cases found
      cases decodes.unique written
      exact ⟨rfl, still⟩
    · rintro ⟨rfl, still⟩
      exact ⟨_, rfl, written, still⟩
  · rfl

theorem entro_putProgetto (holds : EntroScadenza zone s) (progetto : Progetto) :
    EntroScadenza zone (s.put .progetti key (RepositoryProgetto.aggiornaProgettoMap progetto)) ↔
      CopreLeAperte zone s key progetto.dataScadenza := by
  constructor
  · intro after id a isOpen same
    have present : Presente (s.put .progetti key (RepositoryProgetto.aggiornaProgettoMap progetto))
      a.progetto (progetto.riletto key) := by
      rw [presente_putProgetto, if_pos same]
    exact after id a _ (aperta_putProgetto.mpr isOpen) present
  · intro covers id a p isOpen present
    rw [aperta_putProgetto] at isOpen
    rw [presente_putProgetto] at present
    split at present
    · next same =>
      subst present
      exact covers id a isOpen same
    · exact holds id a p isOpen present

theorem entro_putTodo (holds : EntroScadenza zone s) (task : LeMieAttivita) :
    EntroScadenza zone (s.put .todo key task.toMap) ↔
      (task.completato = false → InTempo zone s task.progetto task.dataScadenza) := by
  constructor
  · intro after isOpen p present
    have stored : Aperta (s.put .todo key task.toMap) key (task.riletta key) := by
      rw [aperta_putTodo, if_pos rfl]
      exact ⟨rfl, isOpen⟩
    exact after key _ p stored (presente_putTodo.mpr present)
  · intro inTime id a p isOpen present
    rw [presente_putTodo] at present
    rw [aperta_putTodo] at isOpen
    split at isOpen
    · obtain ⟨rfl, isOpen⟩ := isOpen
      exact inTime isOpen p present
    · exact holds id a p isOpen present

end

/-- A dialog opened on the stored deadline before it has passed respects it,
whatever the user makes of the dialog. -/
theorem rispetta_aggiungiTask {zone : Zone} {s : Store} {idProgetto : String} {p : Progetto}
    {dialog : AddTodoDialog}
    {oggi₁ oggi₂ oggi₃ oggi now now' : DateTime} {utenteCorrente : Option String}
    (present : Presente s idProgetto p)
    (selezionabile : (AddTodoDialog.apri p.dataScadenza oggi₁ oggi₂ oggi₃).dataSelezionabile = true)
    (ordered : oggi₂.micros ≤ oggi₃.micros)
    (reached : AddTodoDialog.Raggiunto zone (.apri p.dataScadenza oggi₁ oggi₂ oggi₃) dialog) :
    Rispetta zone s (.aggiungiTask dialog oggi now now' utenteCorrente idProgetto) := by
  obtain ⟨d, found, decodes⟩ := present
  obtain ⟨t, -, deadline⟩ := decodes.dataScadenza
  have isLocal : p.dataScadenza.isUtc = false := by
    rw [deadline]
    rfl
  have initially : AddTodoDialog.Entro zone _ :=
    AddTodoDialog.apri_entro selezionabile isLocal ordered
  have inTime := reached.entro initially
  rw [AddTodoDialog.Entro, reached.dataScadenzaProgetto] at inTime
  rintro q ⟨d', found', decodes'⟩
  cases found.symm.trans found'
  cases decodes.unique decodes'
  exact inTime

/-- The same of a dialog that edits an open task, on the page of the task's own project. -/
theorem rispetta_modificaTask {zone : Zone} {s : Store} {id : String} {a : LeMieAttivita}
    {p : Progetto} {dialog : EditTodoDialog} {oggi₁ oggi now now' : DateTime}
    (holds : EntroScadenza zone s) (isOpen : Aperta s id a) (present : Presente s a.progetto p)
    (reached : EditTodoDialog.Raggiunto zone (.apri a p.dataScadenza oggi₁) dialog) :
    Rispetta zone s (.modificaTask dialog oggi now now') := by
  have within := holds id a p isOpen present
  obtain ⟨d, -, decodes, -⟩ := isOpen
  obtain ⟨t, -, date⟩ := decodes.dataScadenza
  have isLocal : a.dataScadenza.isUtc = false := by
    rw [date]
    rfl
  have initially : (EditTodoDialog.apri a p.dataScadenza oggi₁).Entro zone := by
    rw [EditTodoDialog.Entro, EditTodoDialog.apri, Timestamp.giorno_of_local zone isLocal]
    exact within
  have inTime := reached.entro initially
  rw [EditTodoDialog.Entro, reached.dataScadenzaProgetto] at inTime
  intro _ q present'
  rw [reached.todoItem] at present'
  obtain ⟨d, found, decodes⟩ := present
  obtain ⟨d', found', decodes'⟩ := present'
  cases found.symm.trans found'
  cases decodes.unique decodes'
  exact inTime

/-! ## Runs -/

/-- Tasks are in time, and they, the lists and the pages are about projects that exist. -/
structure ConProgetto (zone : Zone) (history : Storia) (s : Store) : Prop where
  entro : EntroScadenza zone s
  tasks : ∀ id a, Aperta s id a → s.get .progetti a.progetto ≠ none
  listed : ∀ a, Elencata history a → a.completato = false → s.get .progetti a.progetto ≠ none
  pages : ∀ progettoId p, Mostrato history progettoId p → s.get .progetti progettoId ≠ none

section
variable {zone : Zone} {history : Storia} {s final : Store} {call : PageCall}
  {exchanges : List (Exchange firestore Thrown)} {out : Except Thrown Unit}

/-- A write keeps the bound just when the call respects it. -/
theorem entro_scrive (holds : ConProgetto zone history s) (writes : Scrive s final call) :
    EntroScadenza zone final ↔ Rispetta zone s call := by
  cases call with
  | addProgetto =>
    obtain ⟨newId, fresh, rfl⟩ := writes
    rw [RepositoryProgetto.creaProgettoMap_eq, entro_putProgetto holds.entro]
    refine iff_of_true (fun id a isOpen same => ?_) trivial
    -- the identifier is new, and the task's project exists
    obtain ⟨d, stored⟩ := Option.ne_none_iff_exists'.mp (holds.tasks id a isOpen)
    exact absurd (same ▸ Store.used_of_get stored) fresh
  | getProgettoById => exact False.elim writes
  | getAttivitaByProgettoId => exact False.elim writes
  | modificaProgetto page =>
    obtain ⟨d, progetto, dataScadenza, _, _, _, picked, -, -, -, rfl⟩ := writes
    rw [entro_putProgetto holds.entro, Rispetta, picked]
    exact ⟨fun covers date same => Option.some.inj same ▸ covers, fun covers => covers _ rfl⟩
  | aggiungiTask =>
    obtain ⟨newId, a, date, isOpen, same, rfl⟩ := writes
    rw [entro_putTodo holds.entro]
    simp [Rispetta, date, isOpen, same]
  | modificaTask =>
    obtain ⟨id, a, date, state, same, rfl⟩ := writes
    rw [entro_putTodo holds.entro, state, date, same]
    rfl

theorem entro_run (holds : ConProgetto zone history s)
    (run : Runs network (call.process zone) s exchanges out final) :
    EntroScadenza zone final ↔ final = s ∨ Rispetta zone s call := by
  constructor
  · intro after
    exact (runs_process run).imp_right fun writes => (entro_scrive holds writes).mp after
  · intro allowed
    rcases runs_process run with rfl | writes
    · exact holds.entro
    · rcases allowed with rfl | respects
      · exact holds.entro
      · exact (entro_scrive holds writes).mpr respects

theorem put_of_scrive (writes : Scrive s final call) : ∃ c key d, final = s.put c key d := by
  cases call with
  | addProgetto =>
    obtain ⟨newId, -, same⟩ := writes
    exact ⟨_, _, _, same⟩
  | getProgettoById => exact False.elim writes
  | getAttivitaByProgettoId => exact False.elim writes
  | modificaProgetto =>
    obtain ⟨_, _, _, _, _, _, -, -, -, -, same⟩ := writes
    exact ⟨_, _, _, same⟩
  | aggiungiTask =>
    obtain ⟨newId, a, -, -, -, same⟩ := writes
    exact ⟨_, _, _, same⟩
  | modificaTask =>
    obtain ⟨id, a, -, -, -, same⟩ := writes
    exact ⟨_, _, _, same⟩

theorem progetti_remain {progettoId : String} (stored : s.get .progetti progettoId ≠ none)
    (run : Runs network (call.process zone) s exchanges out final) :
    final.get .progetti progettoId ≠ none := by
  rcases runs_process run with rfl | writes
  · exact stored
  · obtain ⟨c, key, d, rfl⟩ := put_of_scrive writes
    rw [Store.get_put]
    split
    · exact Option.some_ne_none d
    · exact stored

theorem mostrato_cons {progettoId : String} {p : Progetto}
    {entry : Completed PageCall firestore Thrown}
    (shown : Mostrato (entry :: history) progettoId p) : Mostrato history progettoId p ∨
      entry.call = .getProgettoById progettoId ∧
        ∃ d, ⟨.get .progetti progettoId, .ok (some d)⟩ ∈ entry.exchanges := by
  obtain ⟨entry', member, d, asked, read, decodes⟩ := shown
  rcases List.mem_cons.mp member with rfl | earlier
  · exact .inr ⟨asked, d, read⟩
  · exact .inl ⟨entry', earlier, d, asked, read, decodes⟩

theorem elencata_cons {a : LeMieAttivita} {entry : Completed PageCall firestore Thrown}
    (shown : Elencata (entry :: history) a) : Elencata history a ∨
      entry.call = .getAttivitaByProgettoId a.progetto ∧ ∃ docs id d,
        ⟨.query .todo [.isEqualTo "progetto" (.string a.progetto)], .ok docs⟩ ∈ entry.exchanges ∧
        (id, d) ∈ docs ∧ LeMieAttivita.Decodes id d a := by
  obtain ⟨entry', member, docs, id, d, asked, read, there, decodes⟩ := shown
  rcases List.mem_cons.mp member with rfl | earlier
  · exact .inr ⟨asked, docs, id, d, read, there, decodes⟩
  · exact .inl ⟨entry', earlier, docs, id, d, asked, read, there, decodes⟩

theorem progetto_exists (holds : ConProgetto zone history s)
    (allowed : DalloSchermo zone history call)
    (run : Runs network (call.process zone) s exchanges out final) {id : String} {a : LeMieAttivita}
    (isOpen : Aperta final id a) : s.get .progetti a.progetto ≠ none := by
  rcases runs_process run with rfl | writes
  · exact holds.tasks id a isOpen
  · cases call with
    | addProgetto =>
      obtain ⟨newId, -, rfl⟩ := writes
      exact holds.tasks id a (aperta_putProgetto.mp isOpen)
    | getProgettoById => exact False.elim writes
    | getAttivitaByProgettoId => exact False.elim writes
    | modificaProgetto =>
      obtain ⟨_, _, _, _, _, _, -, -, -, -, rfl⟩ := writes
      exact holds.tasks id a (aperta_putProgetto.mp isOpen)
    | aggiungiTask =>
      obtain ⟨newId, task, -, -, same, rfl⟩ := writes
      -- the dialog was opened on a project that had been read
      obtain ⟨p, -, -, -, shown, -⟩ := allowed
      rw [aperta_putTodo] at isOpen
      split at isOpen
      · obtain ⟨rfl, -⟩ := isOpen
        exact holds.pages _ p (same ▸ shown)
      · exact holds.tasks id a isOpen
    | modificaTask =>
      obtain ⟨key, task, -, state, same, rfl⟩ := writes
      -- the dialog was opened on a task that had been listed, and keeps its state
      obtain ⟨item, _, p, oggi, listed, -, reached⟩ := allowed
      rw [reached.todoItem] at state same
      rw [aperta_putTodo] at isOpen
      split at isOpen
      · obtain ⟨rfl, still⟩ := isOpen
        rw [LeMieAttivita.riletta, same]
        exact holds.listed item listed (state.symm.trans still)
      · exact holds.tasks id a isOpen

theorem ConProgetto.step (holds : ConProgetto zone history s)
    (allowed : DalloSchermo zone history call) (respects : Rispetta zone s call)
    (run : Runs network (call.process zone) s exchanges out final) :
    ConProgetto zone (⟨call, exchanges⟩ :: history) final := by
  constructor
  · exact (entro_run holds run).mpr (.inr respects)
  · intro id a isOpen
    exact progetti_remain (progetto_exists holds allowed run isOpen) run
  · intro a shown still
    rcases elencata_cons shown with earlier | ⟨asked, docs, id, d, read, there, decodes⟩
    · exact progetti_remain (holds.listed a earlier still) run
    · cases asked
      have stored := runs_quiet_query (quiet_getAttivitaByProgettoId a.progetto) run read there
      exact progetti_remain (holds.tasks id a ⟨d, stored, decodes, still⟩) run
  · intro progettoId p shown
    rcases mostrato_cons shown with earlier | ⟨asked, d, read⟩
    · exact progetti_remain (holds.pages progettoId p earlier) run
    · cases asked
      -- what has just been read is stored
      have stored := runs_quiet_get (quiet_getProgettoById progettoId) run read
      exact progetti_remain (stored ▸ Option.some_ne_none d) run

end

/-- As long as every save respects the deadlines no task is due after its
project, and the next call keeps it so just when it writes nothing or respects
them too. -/
theorem due_within_project_iff {zone : Zone} {history : Storia} {mid final : Store}
    {call : PageCall} {exchanges : List (Exchange firestore Thrown)} {out : Except Thrown Unit}
    (sequence : Sequence network (PageCall.process zone)
      (fun history s call => DalloSchermo zone history call ∧ Rispetta zone s call) Store.empty
        history mid)
    (run : Runs network (call.process zone) mid exchanges out final) :
    EntroScadenza zone mid ∧ (EntroScadenza zone final ↔ final = mid ∨ Rispetta zone mid call) := by
  have holds : ConProgetto zone history mid := by
    refine sequence.invariant ?_ ?_
    · rintro history mid call exchanges out final holds ⟨allowed, respects⟩ run
      exact holds.step allowed respects run
    · constructor
      · rintro id a p ⟨d, found, -⟩
        cases found
      · rintro id a ⟨d, found, -⟩
        cases found
      · rintro a ⟨entry, member, -⟩
        cases member
      · rintro progettoId p ⟨entry, member, -⟩
        cases member
  exact ⟨holds.entro, entro_run holds run⟩

/-! ## A deadline moved before a task -/

def tesi : Progetto :=
  ProgettoViewModel.nuovoProgetto ⟨0, false⟩ "u" "1a2b3c4d-0000" "Tesi" "Bozza"
    ⟨microsPerDay, false⟩ .alta ["anna"]

def creaTesi : PageCall :=
  .addProgetto ⟨none, [], some "anna", [], false⟩ ⟨0, false⟩ "u" "1a2b3c4d-0000" "Tesi" "Bozza"
    ⟨microsPerDay, false⟩ .alta ["anna"]

def storeConTesi : Store := Store.empty.put .progetti "p" (RepositoryProgetto.creaProgettoMap tesi)

theorem tesi_decodes : Progetto.Decodes "p" (RepositoryProgetto.creaProgettoMap tesi)
    (tesi.riletto "p") :=
  RepositoryProgetto.decodes_aggiornaProgettoMap "p" tesi

def dialogAperto : AddTodoDialog := .apri ⟨microsPerDay, false⟩ ⟨0, false⟩ ⟨0, false⟩ ⟨0, false⟩

def dialogCapitolo : AddTodoDialog :=
  { dialogAperto.selectDate (some (.ofDay 0 1)) with
    titolo := "Capitolo 1", descrizione := "", priorita := .media }

theorem dialogCapitolo_raggiunto : AddTodoDialog.Raggiunto 0 dialogAperto dialogCapitolo := by
  have picks : AddTodoDialog.Tocca 0 dialogAperto
      (dialogAperto.selectDate (some (.ofDay 0 1))) := by
    refine .selectDate rfl ?_
    rintro date ⟨⟩
    exact ⟨1, by decide, by decide, rfl⟩
  exact (Relation.ReflTransGen.single picks).tail (.compila "Capitolo 1" "" .media)

def aggiungiCapitolo : PageCall :=
  .aggiungiTask dialogCapitolo ⟨0, false⟩ ⟨0, false⟩ ⟨0, false⟩ (some "anna") "p"

theorem due_within_project_iff_capitolo : ∃ history exchanges final,
    Sequence network (PageCall.process 0)
      (fun history s call => DalloSchermo 0 history call ∧ Rispetta 0 s call) Store.empty history
        storeConTesi ∧
    Runs network (aggiungiCapitolo.process 0) storeConTesi exchanges (.ok ()) final ∧
    final.get .todo "t" ≠ none ∧ EntroScadenza 0 final := by
  have empty : Sequence network (PageCall.process 0)
      (fun history s call => DalloSchermo 0 history call ∧ Rispetta 0 s call) Store.empty
        [] Store.empty := .start
  have created := empty.alone creaTesi [.inr "p", .inr ""] ⟨trivial, trivial⟩ rfl
  obtain ⟨exchanges, final, run, stored⟩ : ∃ exchanges final,
      Runs network (aggiungiCapitolo.process 0) storeConTesi exchanges (.ok ()) final ∧
        final.get .todo "t" ≠ none :=
    ⟨_, _, .of_runAlone [.inr "t"] rfl, Option.some_ne_none _⟩
  have respects : Rispetta 0 storeConTesi aggiungiCapitolo :=
    rispetta_aggiungiTask ⟨_, rfl, tesi_decodes⟩ rfl le_rfl dialogCapitolo_raggiunto
  exact ⟨_, exchanges, final, created, run, stored, (due_within_project_iff created run).2.mpr
    (.inr respects)⟩

def paginaTesi : ModificaProgetto :=
  { (ModificaProgetto.initState "p" ⟨none, [], none, [], false⟩ ⟨0, false⟩).loadProgetto
    (some (tesi.riletto "p")) with selectedDate := some (.ofDay 0 0) }

theorem paginaTesi_raggiunta : ModificaProgetto.Raggiunta 0
    ((ModificaProgetto.initState "p" ⟨none, [], none, [], false⟩ ⟨0, false⟩).loadProgetto
      (some (tesi.riletto "p")))
    paginaTesi :=
  .single (.scadenza ⟨tesi.riletto "p", rfl, 0, by decide, by decide, rfl⟩)

def letturaTesi : Completed PageCall firestore Thrown :=
  ⟨.getProgettoById "p",
    [⟨.get .progetti "p", .ok (some (RepositoryProgetto.creaProgettoMap tesi))⟩]⟩

theorem letturaTesi_mostra {history : Storia} (member : letturaTesi ∈ history) :
    Mostrato history "p" (tesi.riletto "p") :=
  ⟨letturaTesi, member, _, rfl, List.mem_cons_self, tesi_decodes⟩

/-- The screens let the deadline move before an open task. -/
theorem task_due_after_project : ∃ history final,
    Sequence network (PageCall.process 0)
      (fun history _ call => DalloSchermo 0 history call) Store.empty history
      final ∧ ¬ EntroScadenza 0 final := by
  have empty : Sequence network (PageCall.process 0)
    (fun history _ call => DalloSchermo 0 history call) Store.empty [] Store.empty := .start
  have created := empty.alone creaTesi [.inr "p", .inr ""] trivial rfl
  have read := created.alone (.getProgettoById "p") [.inr ""] trivial rfl
  have added := read.alone aggiungiCapitolo [.inr "t"]
    ⟨tesi.riletto "p", _, _, _, letturaTesi_mostra List.mem_cons_self, dialogCapitolo_raggiunto⟩ rfl
  have moved := added.alone (.modificaProgetto paginaTesi) [.inr "", .inr ""]
    ⟨tesi.riletto "p", _, _, letturaTesi_mostra (List.mem_cons_of_mem _ List.mem_cons_self),
      paginaTesi_raggiunta⟩ rfl
  refine ⟨_, _, moved, fun bound => ?_⟩
  have late := bound "t" _ _ ⟨_, rfl, LeMieAttivita.decodes_toMap "t" _, rfl⟩
    ⟨_, rfl, RepositoryProgetto.decodes_aggiornaProgettoMap "p" _⟩
  exact absurd late (by decide)

end TeamSync.Deadlines
