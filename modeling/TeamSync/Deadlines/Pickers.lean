import TeamSync.Deadlines.Dialogs
import TeamSync.Library.Guarded

/-! The dates that dialogs and pages give to their date pickers, while time goes on. -/

set_option autoImplicit false

namespace TeamSync.Deadlines.Pickers

open Effects Projects Dialogs

/-- Every picker that is enabled is given dates that it accepts. -/
def Sicuro (zone : Zone) (s : Stato) : Prop :=
  ∀ dialogo ∈ s.aperti, ∀ richiesta ∈ dialogo.richieste zone s.adesso, richiesta.Conforme zone

def Attuale (zone : Zone) (oggi : DateTime) : Dialogo → Prop
  | .crea dialog => dialog.creaProgetto = true → oggi.day zone ≤ dialog.dataScadenza.day zone
  | .modifica dialog =>
    dialog.dataSelezionabile = true → oggi.day zone ≤ dialog.dataScadenza.day zone
  | _ => True

/-- No task is opened that is overdue or due after the deadline, still to come, of the page's
project, and no dialog stays open on a date that is past or comes back to one. -/
def DateUtili (zone : Zone) (s : Stato) : Evento → Prop
  | .passa ora => ∀ dialogo ∈ s.aperti, Attuale zone ⟨ora, false⟩ dialogo
  | .apri (.modifica dialog) => s.adesso.isBefore dialog.dataScadenzaProgetto = true →
      s.adesso.day zone ≤ dialog.todoItem.dataScadenza.day zone ∧
        dialog.todoItem.dataScadenza.day zone ≤ dialog.dataScadenzaProgetto.day zone
  | .tocca _ dialogo => Attuale zone s.adesso dialogo
  | _ => True

/-! ## Dialogs on their own -/

structure Ammessa (zone : Zone) (p : Progetto) (date : DateTime) : Prop where
  isLocal : date.isUtc = false
  dopoLaCreazione : p.dataCreazione.day zone ≤ date.day zone
  entroLUltima : date.day zone ≤ (ultimaData zone).day zone

/-- A project that has been created by the end of the day of its deadline. -/
structure ProgettoValido (zone : Zone) (p : Progetto) : Prop where
  descrizione : p.descrizione ≠ none
  scadenza : Ammessa zone p p.dataScadenza
  consegna : Ammessa zone p p.dataConsegna

theorem ProgettoValido.same {zone : Zone} {p q : Progetto} (valid : ProgettoValido zone q)
    (dates : p.descrizione = q.descrizione ∧ p.dataCreazione = q.dataCreazione ∧
      p.dataScadenza = q.dataScadenza ∧ p.dataConsegna = q.dataConsegna) :
    ProgettoValido zone p := by
  obtain ⟨description, creation, deadline, delivery⟩ := dates
  obtain ⟨described, due, delivered⟩ := valid
  refine ⟨description ▸ described, ?_, ?_⟩
  · rw [deadline]
    exact ⟨due.isLocal, creation ▸ due.dopoLaCreazione, due.entroLUltima⟩
  · rw [delivery]
    exact ⟨delivered.isLocal, creation ▸ delivered.dopoLaCreazione, delivered.entroLUltima⟩

def NelSelettore (zone : Zone) (dialog : AddTodoDialog) : Prop :=
  dialog.dataSelezionabile = true →
    dialog.dataOdierna.day zone ≤ dialog.dataSelezionata.day zone ∧
      dialog.dataSelezionata.day zone ≤ dialog.dataScadenzaProgetto.day zone

def Entro (zone : Zone) : Dialogo → Prop
  | .modifica dialog => dialog.dataSelezionabile = true →
      dialog.dataScadenza.day zone ≤ dialog.dataScadenzaProgetto.day zone
  | _ => True

def Valido (zone : Zone) (s : Stato) : Dialogo → Prop
  | .crea dialog => dialog.CreaOUnisce ∧ dialog.dataScadenza.day zone ≤ (ultimaData zone).day zone
  | .pagina page => ∃ p scadenza consegna, page.progetto = some p ∧
      (page.projectId, p) ∈ s.letti ∧ page.selectedDate = some scadenza ∧
      page.selectedDate2 = some consegna ∧ Ammessa zone p scadenza ∧ Ammessa zone p consegna
  | .aggiungi _ dialog => NelSelettore zone dialog
  | .modifica _ => True

section
variable {zone : Zone} {s t : Stato} {oggi : DateTime} {dialogo prima dopo : Dialogo}

theorem conforme_of {richiesta : Richiesta}
    (first : richiesta.firstDate.day zone ≤ richiesta.initialDate.day zone)
    (last : richiesta.initialDate.day zone ≤ richiesta.lastDate.day zone) :
    richiesta.Conforme zone :=
  ⟨first.trans last, first, last⟩

theorem conforme_iff (valid : Valido zone s dialogo) :
    (∀ richiesta ∈ dialogo.richieste zone oggi, richiesta.Conforme zone) ↔
      Attuale zone oggi dialogo ∧ Entro zone dialogo := by
  cases dialogo with
  | crea dialog =>
    obtain ⟨-, bound⟩ := valid
    refine Iff.trans ?_ (and_iff_left trivial).symm
    cases creates : dialog.creaProgetto with
    | false => simp [Dialogo.richieste, CreaProgettoDialog.richiesta, Attuale, creates]
    | true =>
      simp only [Dialogo.richieste, CreaProgettoDialog.richiesta, Attuale, creates, if_true,
        Option.toList_some, List.mem_singleton, forall_eq, forall_const]
      exact ⟨fun accepted => accepted.dopoLaPrima, fun current => conforme_of current bound⟩
  | pagina page =>
    obtain ⟨p, scadenza, consegna, loaded, -, picked, delivered, first, second⟩ := valid
    refine iff_of_true (fun richiesta member => ?_) ⟨trivial, trivial⟩
    simp only [Dialogo.richieste, ModificaProgetto.richiestaScadenza,
      ModificaProgetto.richiestaConsegna, loaded, picked, delivered, Option.map_some,
      Option.getD_some, Option.toList_some, List.mem_append, List.mem_singleton] at member
    rcases member with rfl | member
    · exact conforme_of first.dopoLaCreazione first.entroLUltima
    · split at member
      · cases List.mem_singleton.mp member
        exact conforme_of second.dopoLaCreazione second.entroLUltima
      · cases member
  | aggiungi idProgetto dialog =>
    refine iff_of_true (fun richiesta member => ?_) ⟨trivial, trivial⟩
    simp only [Dialogo.richieste, AddTodoDialog.richiesta] at member
    split at member
    · next enabled =>
      cases List.mem_singleton.mp member
      exact conforme_of (valid enabled).1 (valid enabled).2
    · cases member
  | modifica dialog =>
    cases enabled : dialog.dataSelezionabile with
    | false => simp [Dialogo.richieste, EditTodoDialog.richiesta, Attuale, Entro, enabled]
    | true =>
      simp only [Dialogo.richieste, EditTodoDialog.richiesta, Attuale, Entro, enabled, if_true,
        Option.toList_some, List.mem_singleton, forall_eq, forall_const]
      exact ⟨fun accepted => ⟨accepted.dopoLaPrima, accepted.entroLUltima⟩,
        fun both => conforme_of both.1 both.2⟩

theorem Valido.mono (valid : Valido zone s dialogo) (read : ∀ x ∈ s.letti, x ∈ t.letti) :
    Valido zone t dialogo := by
  cases dialogo with
  | pagina page =>
    obtain ⟨p, scadenza, consegna, loaded, known, rest⟩ := valid
    exact ⟨p, scadenza, consegna, loaded, read _ known, rest⟩
  | crea | aggiungi | modifica => exact valid

theorem ammessa_of_offers {p : Progetto} {picked : DateTime}
    (offered : Offers zone p.dataCreazione (ultimaData zone) picked) : Ammessa zone p picked := by
  obtain ⟨n, above, below, rfl⟩ := offered
  exact ⟨rfl, by rwa [DateTime.day_ofDay], by rwa [DateTime.day_ofDay]⟩

theorem NelSelettore.tocca {dialog dialog' : AddTodoDialog} (within : NelSelettore zone dialog)
    (touched : AddTodoDialog.Tocca zone dialog dialog') : NelSelettore zone dialog' := by
  obtain ⟨project, first, enabled, date⟩ := touched.cases
  intro still
  rw [enabled] at still
  rw [project, first]
  rcases date with same | ⟨n, above, below, picked⟩
  · rw [same]
    exact within still
  · rw [picked, DateTime.day_ofDay]
    exact ⟨above, below⟩

theorem Valido.tocca (valid : Valido zone s prima) (touched : Tocca zone s.adesso prima dopo)
    (bound : Entro2101 zone dopo) : Valido zone s dopo := by
  cases touched with
  | crea touched => exact ⟨touched.creaOUnisce rfl valid.1, bound⟩
  | pagina touched =>
    obtain ⟨p, scadenza, consegna, loaded, known, picked, delivered, first, second⟩ := valid
    cases touched with
    | scadenza offered =>
      obtain ⟨q, same, offered⟩ := offered
      cases loaded.symm.trans same
      exact ⟨p, _, consegna, loaded, known, rfl, delivered, ammessa_of_offers offered, second⟩
    | consegna _ offered =>
      obtain ⟨q, same, offered⟩ := offered
      cases loaded.symm.trans same
      exact ⟨p, scadenza, _, loaded, known, picked, rfl, first, ammessa_of_offers offered⟩
    | compila => exact ⟨p, scadenza, consegna, loaded, known, picked, delivered, first, second⟩
  | aggiungi touched => exact NelSelettore.tocca valid touched
  | modifica => exact trivial

theorem Entro.tocca (within : Entro zone prima) (touched : Tocca zone oggi prima dopo) :
    Entro zone dopo := by
  cases touched with
  | modifica touched =>
    obtain ⟨-, project, enabled, date⟩ := touched.cases
    intro still
    rw [enabled] at still
    rw [project]
    rcases date with same | ⟨_, n, -, below, picked⟩
    · rw [same]
      exact within still
    · rw [picked, DateTime.day_ofDay]
      exact below
  | crea | pagina | aggiungi => exact trivial

end

/-! ## What the events keep -/

structure Invariante (zone : Zone) (s : Stato) : Prop where
  usato : ∀ id p, Noto s id p → s.store.Used .progetti id
  valido : ∀ id p, Noto s id p → ProgettoValido zone p
  creazione : ∀ id p q, Noto s id p → Noto s id q → p.dataCreazione = q.dataCreazione
  aperti : ∀ dialogo ∈ s.aperti, Valido zone s dialogo

section
variable {zone : Zone} {s t : Stato} {evento : Evento} {dialogo : Dialogo}

theorem Invariante.inizio (zone : Zone) (ora : Int) : Invariante zone (.inizio ora) := by
  have unknown : ∀ id p, ¬ Noto (.inizio ora) id p := by
    rintro id p (⟨d, found, -⟩ | read)
    · cases found
    · cases read
  constructor
  · exact fun id p known => absurd known (unknown id p)
  · exact fun id p known => absurd known (unknown id p)
  · exact fun id p _ known => absurd known (unknown id p)
  · intro dialogo opened
    cases opened

theorem Invariante.of_noti (holds : Invariante zone s)
    (used : ∀ id, s.store.Used .progetti id → t.store.Used .progetti id)
    (projects : ∀ id p, Noto t id p → Noto s id p)
    (dialogs : ∀ dialogo ∈ t.aperti, Valido zone t dialogo) : Invariante zone t where
  usato id p known := used id (holds.usato id p (projects id p known))
  valido id p known := holds.valido id p (projects id p known)
  creazione id p q known known' :=
    holds.creazione id p q (projects id p known) (projects id q known')
  aperti := dialogs

theorem Invariante.con_aperti {ora : Int} {elencate : List LeMieAttivita} {aperti : List Dialogo}
    (holds : Invariante zone s) (dialogs : ∀ dialogo ∈ aperti, Valido zone s dialogo) :
    Invariante zone { s with ora := ora, elencate := elencate, aperti := aperti } :=
  holds.of_noti (fun _ used => used) (fun _ _ known => known) dialogs

theorem Invariante.conserva {final : Store} (holds : Invariante zone s)
    (kept : Conserva s.store final) : Invariante zone { s with store := final } := by
  refine holds.of_noti kept.used ?_ holds.aperti
  rintro id p (⟨d', found, dates⟩ | read)
  · obtain ⟨d, found', same⟩ := kept.stored _ _ found
    refine .inl ⟨d, found', ?_⟩
    constructor
    · exact same "descrizione" (by decide) ▸ dates.descrizione
    · exact same "dataCreazione" (by decide) ▸ dates.dataCreazione
    · exact same "dataScadenza" (by decide) ▸ dates.dataScadenza
    · exact same "dataConsegna" (by decide) ▸ dates.dataConsegna
  · exact .inr read

theorem Invariante.putProgetto {key : String} {progetto : Progetto} (holds : Invariante zone s)
    (valid : ProgettoValido zone (progetto.riletto key))
    (created : ∀ q, Noto s key q → q.dataCreazione = (progetto.riletto key).dataCreazione) :
    Invariante zone { s with
      store := s.store.put .progetti key (RepositoryProgetto.aggiornaProgettoMap progetto) } := by
  have written : DateDelProgetto _ (progetto.riletto key) :=
    .of_decodes (RepositoryProgetto.decodes_aggiornaProgettoMap key progetto)
  constructor
  · intro id p known
    rcases noto_putProgetto known with ⟨rfl, -⟩ | known
    · exact Store.used_of_get (Store.get_put_self _ _ _ _)
    · exact (holds.usato id p known).put
  · intro id p known
    rcases noto_putProgetto known with ⟨rfl, dates⟩ | known
    · exact valid.same (dates.same written)
    · exact holds.valido id p known
  · intro id p q known known'
    rcases noto_putProgetto known with ⟨rfl, dates⟩ | before
    · rcases noto_putProgetto known' with ⟨-, dates'⟩ | before'
      · exact (dates.same dates').2.1
      · exact (dates.same written).2.1.trans (created q before').symm
    · rcases noto_putProgetto known' with ⟨rfl, dates⟩ | before'
      · exact (created p before).trans (dates.same written).2.1.symm
      · exact holds.creazione id p q before before'
  · exact holds.aperti

theorem Invariante.apre (holds : Invariante zone s) (opens : Apre s dialogo)
    (bound : Entro2101 zone dialogo) : Valido zone s dialogo := by
  cases opens with
  | crea => exact ⟨CreaProgettoDialog.apri_creaOUnisce rfl, bound⟩
  | @pagina id p vm dataMinima read =>
    obtain ⟨described, due, delivered⟩ := holds.valido id p (.inr read)
    obtain ⟨descrizione, same⟩ := Option.ne_none_iff_exists'.mp described
    simp only [ModificaProgetto.loadProgetto, same]
    exact ⟨p, _, _, rfl, read, rfl, rfl, due, delivered⟩
  | @aggiungi id p oggi₁ oggi₂ read local₁ local₂ first second =>
    have isLocal := (holds.valido id p (.inr read)).scadenza.isLocal
    intro enabled
    have toCome : s.ora < p.dataScadenza.micros := of_decide_eq_true enabled
    exact ⟨DateTime.day_mono zone (local₁.trans local₂.symm) first,
      DateTime.day_mono zone (local₂.trans isLocal.symm) (second.trans toCome.le)⟩
  | modifica => exact trivial

theorem apre_iff (opens : Apre s dialogo) :
    Attuale zone s.adesso dialogo ∧ Entro zone dialogo ↔ DateUtili zone s (.apri dialogo) := by
  cases opens with
  | crea =>
    refine iff_of_true ⟨fun _ => DateTime.day_mono zone rfl ?_, trivial⟩ trivial
    simp only [Stato.adesso, CreaProgettoDialog.apri, DateTime.addDays, microsPerDay]
    omega
  | pagina | aggiungi => exact iff_of_true ⟨trivial, trivial⟩ trivial
  | modifica => exact forall_and.symm

theorem sicuro_iff (holds : Invariante zone s) :
    Sicuro zone s ↔ ∀ dialogo ∈ s.aperti, Attuale zone s.adesso dialogo ∧ Entro zone dialogo :=
  forall₂_congr fun dialogo opened => conforme_iff (holds.aperti dialogo opened)

theorem Invariante.crea {vm : ProgettoViewModel} {progettoId uuid : String}
    {partecipanti : List String} {dialog : CreaProgettoDialog} {final : Store}
    (holds : Invariante zone s) (valid : Valido zone s (.crea dialog))
    (current : Attuale zone s.adesso (.crea dialog)) (named : dialog.nome ≠ "")
    (writes : Scrive s.store final (.addProgetto vm s.adesso progettoId uuid dialog.nome
      dialog.descrizione dialog.dataScadenza dialog.priorita partecipanti)) :
    Invariante zone { s with store := final } := by
  obtain ⟨newId, fresh, rfl⟩ := writes
  obtain ⟨consistent, bound⟩ := valid
  have isLocal := consistent.isLocal
  have accepted : Ammessa zone ((ProgettoViewModel.nuovoProgetto s.adesso progettoId uuid
      dialog.nome dialog.descrizione dialog.dataScadenza dialog.priorita partecipanti).riletto
        newId) dialog.dataScadenza :=
    ⟨isLocal, current (consistent.crea named), bound⟩
  have due : (Timestamp.fromDate dialog.dataScadenza).toDate = dialog.dataScadenza :=
    Timestamp.toDate_fromDate isLocal
  refine holds.putProgetto ⟨Option.some_ne_none _, ?_, ?_⟩ fun q known =>
    absurd (holds.usato newId q known) fresh
  · exact due.symm ▸ accepted
  · exact due.symm ▸ accepted

theorem Invariante.modifica {page : ModificaProgetto} {final : Store} (holds : Invariante zone s)
    (valid : Valido zone s (.pagina page))
    (writes : Scrive s.store final (.modificaProgetto page)) :
    Invariante zone { s with store := final } := by
  obtain ⟨d, progetto, scadenza, consegna, priorita, voto, picked, delivered, found, decodes,
    rfl⟩ := writes
  obtain ⟨q, scadenza', consegna', -, read, picked', delivered', first, second⟩ := valid
  cases picked.symm.trans picked'
  cases delivered.symm.trans delivered'
  have stored : Noto s page.projectId progetto := .inl ⟨d, found, .of_decodes decodes⟩
  have same := holds.creazione _ q progetto (.inr read) stored
  have created : (Timestamp.fromDate progetto.dataCreazione).toDate = progetto.dataCreazione :=
    Timestamp.toDate_fromDate (date_isLocal decodes.dataCreazione)
  have accepted : ∀ date, Ammessa zone q date → Ammessa zone ((modificato progetto
      page.nomeProgetto page.descrizioneProgetto scadenza priorita page.progettoCompletato voto
        consegna).riletto page.projectId) (Timestamp.fromDate date).toDate := by
    intro date good
    rw [Timestamp.toDate_fromDate good.isLocal]
    refine ⟨good.isLocal, ?_, good.entroLUltima⟩
    change (Timestamp.fromDate progetto.dataCreazione).toDate.day zone ≤ _
    rw [created, ← same]
    exact good.dopoLaCreazione
  refine holds.putProgetto ⟨Option.some_ne_none _, accepted _ first, accepted _ second⟩
    fun q' known => ?_
  exact (holds.creazione _ q' progetto known stored).trans created.symm

theorem Invariante.salva {call : PageCall} {calls : List (Exchange firestore Thrown)}
    {out : Except Thrown Unit} {final : Store} (holds : Invariante zone s) (now : Sicuro zone s)
    (member : dialogo ∈ s.aperti) (saves : Salva s.adesso dialogo call)
    (run : Runs network (call.process zone) s.store calls out final) :
    Invariante zone { s with store := final } := by
  rcases runs_process run with rfl | writes
  · exact holds
  have valid := holds.aperti dialogo member
  cases saves with
  | crea _ named => exact holds.crea valid ((sicuro_iff holds).mp now _ member).1 named writes
  | pagina => exact holds.modifica valid writes
  | aggiungi =>
    obtain ⟨newId, a, -, -, -, rfl⟩ := writes
    exact holds.conserva (.putTodo _ _ _)
  | modifica =>
    obtain ⟨id, a, -, -, -, rfl⟩ := writes
    exact holds.conserva (.putTodo _ _ _)

theorem Invariante.passo (holds : Invariante zone s) (now : Sicuro zone s)
    (step : Passo zone s evento t) : Invariante zone t := by
  cases step with
  | passa => exact holds.con_aperti holds.aperti
  | leggi run =>
    obtain ⟨rfl, d, found, decodes⟩ := stored_of_read run
    refine holds.of_noti (fun _ used => used) ?_ fun dialogo opened =>
      (holds.aperti dialogo opened).mono fun _ read => List.mem_cons_of_mem _ read
    rintro id p (stored | read)
    · exact .inl stored
    · rcases List.mem_cons.mp read with same | read
      · cases same
        exact .inl ⟨d, found, .of_decodes decodes⟩
      · exact .inr read
  | elenca run =>
    cases runs_quiet (quiet_lista _ _ _) run
    exact holds.con_aperti holds.aperti
  | apri opens bound =>
    exact holds.con_aperti (List.forall_mem_cons.mpr ⟨holds.apre opens bound, holds.aperti⟩)
  | tocca opened touched bound =>
    refine holds.con_aperti fun dialogo member => ?_
    rcases List.mem_or_eq_of_mem_set member with member | rfl
    · exact holds.aperti dialogo member
    · exact (holds.aperti _ (List.mem_of_getElem? opened)).tocca touched bound
  | chiudi =>
    exact holds.con_aperti fun dialogo member =>
      holds.aperti dialogo (List.mem_of_mem_eraseIdx member)
  | salva opened saves run => exact holds.salva now (List.mem_of_getElem? opened) saves run
  | altra run => exact holds.conserva (conserva_altra run)

/-- An event keeps the dates acceptable just when it meets the condition. -/
theorem sicuro_passo_iff (holds : Invariante zone s) (now : Sicuro zone s)
    (step : Passo zone s evento t) : Sicuro zone t ↔ DateUtili zone s evento := by
  have after : Invariante zone t := holds.passo now step
  have current := (sicuro_iff holds).mp now
  rw [sicuro_iff after]
  cases step with
  | passa =>
    exact forall₂_congr fun dialogo opened => and_iff_left (current dialogo opened).2
  | leggi | elenca | salva | altra => exact iff_of_true current trivial
  | apri opens =>
    exact List.forall_mem_cons.trans ((and_iff_left current).trans (apre_iff opens))
  | @tocca i prima dopo opened touched =>
    have within := (current prima (List.mem_of_getElem? opened)).2.tocca touched
    constructor
    · exact fun all => (all dopo (List.mem_set (List.getElem?_eq_some_iff.mp opened).1 dopo)).1
    · intro good dialogo member
      rcases List.mem_or_eq_of_mem_set member with member | rfl
      · exact current dialogo member
      · exact ⟨good, within⟩
  | chiudi =>
    exact iff_of_true (fun dialogo member => current dialogo (List.mem_of_mem_eraseIdx member))
      trivial

end

/-- As long as every event meets the condition, every picker that is enabled is given dates that
it accepts; after one more event, just when that meets it. -/
theorem enabled_pickers_accept {zone : Zone} {ora : Int} {s : Stato}
    (run : GuardedRun (Passo zone) (DateUtili zone) (.inizio ora) s) :
    Sicuro zone s ∧ ∀ evento t, Passo zone s evento t →
      (Sicuro zone t ↔ DateUtili zone s evento) := by
  have kept : Invariante zone s ∧ Sicuro zone s := by
    refine run.invariant (fun s => Invariante zone s ∧ Sicuro zone s)
      (fun before permitted taken => ?_) ⟨.inizio zone ora, fun _ opened => by cases opened⟩
    exact ⟨before.1.passo before.2 taken,
      (sicuro_passo_iff before.1 before.2 taken).mpr permitted⟩
  exact ⟨kept.2, fun _ _ taken => sicuro_passo_iff kept.1 kept.2 taken⟩

/-! ## A task that is due on the day it is added -/

def mezzogiorno : Int := 43200000000

def dialogoTesi : CreaProgettoDialog :=
  { CreaProgettoDialog.apri ⟨mezzogiorno, false⟩ with
    nome := "Tesi", descrizione := "Bozza", priorita := .alta }

def progettoTesi : Progetto :=
  ProgettoViewModel.nuovoProgetto ⟨mezzogiorno, false⟩ "u" "1a2b3c4d-0000" "Tesi" "Bozza"
    dialogoTesi.dataScadenza .alta ["anna"]

def dialogoCapitolo : AddTodoDialog :=
  { AddTodoDialog.apri (progettoTesi.riletto "p").dataScadenza ⟨mezzogiorno, false⟩
      ⟨mezzogiorno, false⟩ ⟨mezzogiorno, false⟩ with
    titolo := "Capitolo 1" }

def capitoloDiOggi : LeMieAttivita :=
  .new ⟨mezzogiorno, false⟩ none "Capitolo 1" "" dialogoCapitolo.dataSelezionata .bassa false "p"
    ["anna"] none none

def storeTesi : Store :=
  Store.empty.put .progetti "p" (RepositoryProgetto.creaProgettoMap progettoTesi)

def conCapitolo : Stato where
  store := storeTesi.put .todo "t" capitoloDiOggi.toMap
  ora := mezzogiorno
  letti := [("p", progettoTesi.riletto "p")]
  elencate := [capitoloDiOggi.riletta "t"]
  aperti := []

theorem corsa_tesi : GuardedRun (Passo 0) (DateUtili 0) (.inizio mezzogiorno)
    ⟨storeTesi, mezzogiorno, [], [], []⟩ := by
  have opened : GuardedRun (Passo 0) (DateUtili 0) (.inizio mezzogiorno)
      ⟨.empty, mezzogiorno, [], [], [.crea (.apri ⟨mezzogiorno, false⟩)]⟩ :=
    .single ⟨.apri (.crea (.apri ⟨mezzogiorno, false⟩)), trivial,
      .apri .crea (show _ ≤ _ by decide)⟩
  have filled : GuardedRun (Passo 0) (DateUtili 0) (.inizio mezzogiorno)
      ⟨.empty, mezzogiorno, [], [], [.crea dialogoTesi]⟩ :=
    opened.tail ⟨.tocca 0 (.crea dialogoTesi), fun _ => by decide,
      .tocca rfl (.crea (.compila "Tesi" "Bozza" .alta rfl)) (show _ ≤ _ by decide)⟩
  have saves : Salva ⟨mezzogiorno, false⟩ (.crea dialogoTesi)
      (.addProgetto ⟨none, [], none, [], false⟩ ⟨mezzogiorno, false⟩ "u" "1a2b3c4d-0000" "Tesi"
        "Bozza" dialogoTesi.dataScadenza .alta ["anna"]) :=
    .crea rfl (by decide)
  have saved : GuardedRun (Passo 0) (DateUtili 0) (.inizio mezzogiorno)
      ⟨storeTesi, mezzogiorno, [], [], [.crea dialogoTesi]⟩ :=
    filled.tail ⟨.salva 0, trivial, .salva rfl saves (.of_runAlone [.inr "p", .inr ""] rfl)⟩
  exact saved.tail ⟨.chiudi 0, trivial, .chiudi⟩

theorem corsa_conCapitolo :
    GuardedRun (Passo 0) (DateUtili 0) (.inizio mezzogiorno) conCapitolo := by
  have shown : GuardedRun (Passo 0) (DateUtili 0) (.inizio mezzogiorno)
      ⟨storeTesi, mezzogiorno, [("p", progettoTesi.riletto "p")], [], []⟩ :=
    corsa_tesi.tail ⟨.leggi "p", trivial, .leggi (.of_runAlone [.inr ""] rfl)⟩
  have opened : GuardedRun (Passo 0) (DateUtili 0) (.inizio mezzogiorno)
      ⟨storeTesi, mezzogiorno, [("p", progettoTesi.riletto "p")], [],
        [.aggiungi "p" (.apri (progettoTesi.riletto "p").dataScadenza ⟨mezzogiorno, false⟩
          ⟨mezzogiorno, false⟩ ⟨mezzogiorno, false⟩)]⟩ :=
    shown.tail ⟨.apri (.aggiungi "p" (.apri (progettoTesi.riletto "p").dataScadenza
      ⟨mezzogiorno, false⟩ ⟨mezzogiorno, false⟩ ⟨mezzogiorno, false⟩)), trivial,
      .apri (.aggiungi List.mem_cons_self rfl rfl le_rfl le_rfl) trivial⟩
  have filled : GuardedRun (Passo 0) (DateUtili 0) (.inizio mezzogiorno)
      ⟨storeTesi, mezzogiorno, [("p", progettoTesi.riletto "p")], [],
        [.aggiungi "p" dialogoCapitolo]⟩ :=
    opened.tail ⟨.tocca 0 (.aggiungi "p" dialogoCapitolo), trivial,
      .tocca rfl (.aggiungi (.compila "Capitolo 1" "" .bassa)) trivial⟩
  have saves : Salva ⟨mezzogiorno, false⟩ (.aggiungi "p" dialogoCapitolo)
      (.aggiungiTask dialogoCapitolo ⟨mezzogiorno, false⟩ ⟨mezzogiorno, false⟩
        ⟨mezzogiorno, false⟩ (some "anna") "p") := .aggiungi
  have saved : GuardedRun (Passo 0) (DateUtili 0) (.inizio mezzogiorno)
      ⟨storeTesi.put .todo "t" capitoloDiOggi.toMap, mezzogiorno,
        [("p", progettoTesi.riletto "p")], [], [.aggiungi "p" dialogoCapitolo]⟩ :=
    filled.tail ⟨.salva 0, trivial, .salva rfl saves (.of_runAlone [.inr "t"] rfl)⟩
  have closed : GuardedRun (Passo 0) (DateUtili 0) (.inizio mezzogiorno)
      { conCapitolo with elencate := [] } := saved.tail ⟨.chiudi 0, trivial, .chiudi⟩
  have listed : ∃ calls, Runs network (TodoRepository.getAttivitaByProgettoId "p")
      conCapitolo.store calls (.ok [capitoloDiOggi.riletta "t"]) conCapitolo.store :=
    ⟨_, .of_runAlone [.inr ""] rfl⟩
  obtain ⟨calls, listed⟩ := listed
  have shown : Passo 0 { conCapitolo with elencate := [] } (.elenca "p") conCapitolo :=
    Passo.elenca (s := { conCapitolo with elencate := [] }) listed
  exact closed.tail ⟨.elenca "p", trivial, shown⟩

def dialogoModifica (ora : Int) : EditTodoDialog :=
  .apri (capitoloDiOggi.riletta "t") (progettoTesi.riletto "p").dataScadenza ⟨ora, false⟩

theorem apre_modifica (ora : Int) :
    Apre { conCapitolo with ora := ora } (.modifica (dialogoModifica ora)) :=
  .modifica List.mem_cons_self List.mem_cons_self

/-- On the same day. -/
theorem enabled_pickers_accept_capitolo : ∃ s,
    .modifica (dialogoModifica mezzogiorno) ∈ s.aperti ∧
    (dialogoModifica mezzogiorno).dataSelezionabile = true ∧ Sicuro 0 s ∧
    ∀ evento t, Passo 0 s evento t → (Sicuro 0 t ↔ DateUtili 0 s evento) := by
  have opened : GuardedRun (Passo 0) (DateUtili 0) (.inizio mezzogiorno)
      { conCapitolo with aperti := [.modifica (dialogoModifica mezzogiorno)] } :=
    corsa_conCapitolo.tail ⟨.apri (.modifica (dialogoModifica mezzogiorno)), fun _ => by decide,
      .apri (apre_modifica mezzogiorno) trivial⟩
  exact ⟨_, List.mem_cons_self, by decide, enabled_pickers_accept opened⟩

def mattina : Int := 115200000000

/-- The task is overdue and its project is not: the picker, which is there, is given a date
before the first that it may show. -/
theorem overdue_task_breaks_its_picker : ∃ s,
    GuardedRun (Passo 0) (fun _ _ => True) (.inizio mezzogiorno) s ∧
    .modifica (dialogoModifica mattina) ∈ s.aperti ∧ s.ora = mattina ∧
    (dialogoModifica mattina).richiesta s.adesso = some ⟨capitoloDiOggi.dataScadenza,
      s.adesso, progettoTesi.dataScadenza⟩ ∧
    capitoloDiOggi.dataScadenza.day 0 < s.adesso.day 0 ∧ ¬ Sicuro 0 s := by
  have later := corsa_conCapitolo.unguarded.tail
    ⟨.passa mattina, trivial, .passa (show _ ≤ _ by decide)⟩
  have opened := later.tail ⟨.apri (.modifica (dialogoModifica mattina)), trivial,
    .apri (apre_modifica mattina) trivial⟩
  refine ⟨_, opened, List.mem_cons_self, rfl, rfl, by decide, fun safe => ?_⟩
  have accepted := safe _ List.mem_cons_self ⟨capitoloDiOggi.dataScadenza, ⟨mattina, false⟩,
    progettoTesi.dataScadenza⟩ (List.mem_singleton.mpr rfl)
  exact absurd accepted.dopoLaPrima (by decide)

end TeamSync.Deadlines.Pickers
