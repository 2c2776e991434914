import TeamSync.Projects.Format
import TeamSync.Projects.Runs

/-! What the creation of a project reports, and to whom. -/

set_option autoImplicit false

namespace TeamSync.Projects

open Effects RepositoryProgetto ProgettoViewModel

structure DatiProgetto where
  nome : String
  descrizione : String
  dataScadenza : DateTime
  priorita : Priorita
  partecipanti : List String
  deriving DecidableEq, Repr

/-- A project that has these data, is not completed and is due when it is handed in. -/
structure DatiProgetto.Descrive (dati : DatiProgetto) (p : Progetto) : Prop where
  nome : p.nome = dati.nome
  descrizione : p.descrizione = some dati.descrizione
  dataScadenza : p.dataScadenza.micros = dati.dataScadenza.micros
  dataConsegna : p.dataConsegna = p.dataScadenza
  priorita : p.priorita = dati.priorita
  partecipanti : p.partecipanti = dati.partecipanti
  completato : p.completato = false

def avvisati (calls : List (Exchange firestore Thrown)) : List String :=
  calls.filterMap fun x =>
    match x.op with
    | .onSuccess id => some id
    | _ => none

/-- One document is new, `onSuccess` has been called once, with an identifier under which
the project is read, and there is no error. -/
structure Creato (dati : DatiProgetto) (s : Store) (calls : List (Exchange firestore Thrown))
    (after : ProgettoViewModel) (final : Store) : Prop where
  documento : ∃ newId d, s.get .progetti newId = none ∧ ∀ c key, final.get c key =
    if c = .progetti ∧ key = newId then some d else s.get c key
  avviso : ∃ id p, avvisati calls = [id] ∧
    Answers service (RepositoryProgetto.getProgettoById id) final (some p) ∧ dati.Descrive p
  errore : after.erroreAggiungiProgetto = none

/-- Nothing is new, `onSuccess` has not been called, and there is an error. -/
structure NonCreato (s : Store) (calls : List (Exchange firestore Thrown))
    (after : ProgettoViewModel) (final : Store) : Prop where
  documenti : ∀ c key, final.get c key = s.get c key
  avviso : avvisati calls = []
  errore : after.erroreAggiungiProgetto ≠ none

/-- The document could not be added. Or the error was null, the callback has not thrown, and
the identifier drawn is the one that the store has assigned, or was that of such a project. -/
def Concorde (dati : DatiProgetto) (vm : ProgettoViewModel) (progettoId : String) (s : Store)
    (calls : List (Exchange firestore Thrown)) : Prop :=
  (∃ data e, ⟨.add .progetti data, .error e⟩ ∈ calls) ∨
  vm.erroreAggiungiProgetto = none ∧ (∀ e, ⟨.onSuccess progettoId, .error e⟩ ∉ calls) ∧
    ((∃ data, ⟨.add .progetti data, .ok progettoId⟩ ∈ calls) ∨
      ∃ d p, s.get .progetti progettoId = some d ∧ Progetto.Decodes progettoId d p ∧
        dati.Descrive p)

section
variable {dati : DatiProgetto} {vm : ProgettoViewModel} {now : DateTime} {progettoId uuid : String}
    {s : Store} {calls : List (Exchange firestore Thrown)}

theorem descrive_nuovoProgetto (dati : DatiProgetto) (now : DateTime)
    (progettoId uuid id : String) :
    dati.Descrive ((nuovoProgetto now progettoId uuid dati.nome dati.descrizione dati.dataScadenza
      dati.priorita dati.partecipanti).riletto id) :=
  ⟨rfl, rfl, rfl, rfl, rfl, rfl, rfl⟩

theorem get_put_nuovo {newId : String} {d : Document} (fresh : newId ∉ (s .progetti).used) :
    ∃ newId' d', s.get .progetti newId' = none ∧ ∀ c key, (s.put .progetti newId d).get c key =
      if c = .progetti ∧ key = newId' then some d' else s.get c key := by
  refine ⟨newId, d, ?_, fun c key => Store.get_put _ _ _ _ _ _⟩
  by_contra stored
  obtain ⟨d', found⟩ := Option.ne_none_iff_exists'.mp stored
  exact fresh (Store.used_of_get found)

theorem not_creato_of_errore {errore : String} {after : ProgettoViewModel} {final : Store}
    (failed : after.erroreAggiungiProgetto = some errore) : ¬ Creato dati s calls after final :=
  fun created => by cases failed.symm.trans created.errore

theorem not_nonCreato_of_avviso {after : ProgettoViewModel} {final : Store}
    (told : avvisati calls ≠ []) : ¬ NonCreato s calls after final :=
  fun unchanged => told unchanged.avviso

theorem avviso_iff (now : DateTime) (uuid : String) {newId : String}
    (fresh : newId ∉ (s .progetti).used) :
    (∃ p, Answers service (RepositoryProgetto.getProgettoById progettoId)
      (s.put .progetti newId (creaProgettoMap (nuovoProgetto now progettoId uuid dati.nome
        dati.descrizione dati.dataScadenza dati.priorita dati.partecipanti))) (some p) ∧
          dati.Descrive p) ↔
      progettoId = newId ∨ ∃ d p, s.get .progetti progettoId = some d ∧
        Progetto.Decodes progettoId d p ∧ dati.Descrive p := by
  simp only [answers_getProgettoById_iff, Store.get_put, true_and]
  split
  · next same =>
    subst same
    refine iff_of_true ⟨_, ⟨_, rfl, decodes_aggiornaProgettoMap progettoId _⟩,
      descrive_nuovoProgetto dati now progettoId uuid progettoId⟩ (.inl rfl)
  · next differ =>
    constructor
    · rintro ⟨p, ⟨d, stored, decodes⟩, described⟩
      exact .inr ⟨d, p, stored, decodes, described⟩
    · rintro (same | ⟨d, p, stored, decodes, described⟩)
      · exact absurd same differ
      · exact ⟨p, ⟨d, stored, decodes⟩, described⟩

end

/-- A creation reports what happened just when the document could not be added, or
there was no error before, the callback has not thrown and was given the
identifier of the document, or of another project with the same data. -/
theorem creation_reports_iff {dati : DatiProgetto} {vm : ProgettoViewModel} {now : DateTime}
    {progettoId uuid : String} {s final : Store} {calls : List (Exchange firestore Thrown)}
    {out : Except Thrown ProgettoViewModel}
    (run : Runs network (vm.addProgetto now progettoId uuid dati.nome dati.descrizione
      dati.dataScadenza dati.priorita dati.partecipanti) s calls out final) :
    (∃ after, out = .ok after ∧
      (Creato dati s calls after final ∨ NonCreato s calls after final)) ↔
    Concorde dati vm progettoId s calls := by
  obtain ⟨after, rfl, created⟩ := runs_crea run
  have told : (∃ a, (.ok after : Except Thrown ProgettoViewModel) = .ok a ∧
      (Creato dati s calls a final ∨ NonCreato s calls a final)) ↔
      Creato dati s calls after final ∨ NonCreato s calls after final := by simp
  rw [told]
  cases created with
  | nonAggiunto =>
    exact iff_of_true (.inr ⟨fun _ _ => rfl, rfl, Option.some_ne_none _⟩)
      (.inl ⟨_, _, List.mem_cons_self⟩)
  | @interrotto _ _ e fresh =>
    refine iff_of_false ?_ ?_
    · rintro (created | unchanged)
      · exact not_creato_of_errore rfl created
      · exact not_nonCreato_of_avviso (by simp [avvisati]) unchanged
    · rintro (⟨_, _, failed⟩ | ⟨-, returned, -⟩)
      · simp at failed
      · exact returned e (by simp)
  | @aggiunto newId fresh =>
    have asked : Concorde dati vm progettoId s
        [⟨.add .progetti (creaProgettoMap (nuovoProgetto now progettoId uuid dati.nome
          dati.descrizione dati.dataScadenza dati.priorita dati.partecipanti)), .ok newId⟩,
          ⟨.onSuccess progettoId, .ok ()⟩] ↔ vm.erroreAggiungiProgetto = none ∧
      (progettoId = newId ∨ ∃ d p, s.get .progetti progettoId = some d ∧
        Progetto.Decodes progettoId d p ∧ dati.Descrive p) := by
      simp [Concorde]
    rw [asked, ← avviso_iff now uuid fresh]
    constructor
    · rintro (created | unchanged)
      · obtain ⟨id, p, alone, answers, described⟩ := created.avviso
        cases alone
        exact ⟨created.errore, p, answers, described⟩
      · exact absurd unchanged (not_nonCreato_of_avviso (by simp [avvisati]))
    · rintro ⟨none, p, answers, described⟩
      exact .inl ⟨get_put_nuovo fresh, ⟨progettoId, p, rfl, answers, described⟩, none⟩

/-! ## Anna creates a project -/

def datiTesi : DatiProgetto where
  nome := "Tesi"
  descrizione := ""
  dataScadenza := .ofDay 0 20100
  priorita := .alta
  partecipanti := ["anna"]

def primaDellaTesi : ProgettoViewModel where
  erroreAggiungiProgetto := none
  progetti := []
  utenteCorrenteId := some "anna"
  attivitaProgetti := []
  isLoading := false

abbrev creaTesi : App ProgettoViewModel :=
  primaDellaTesi.addProgetto (.ofDay 0 20000) "u" "1a2b3c4d-0000" datiTesi.nome
    datiTesi.descrizione datiTesi.dataScadenza datiTesi.priorita datiTesi.partecipanti

theorem creation_reports_iff_anna : ∃ calls final,
    Runs network creaTesi Store.empty calls (.ok primaDellaTesi) final ∧
    ∃ after, (.ok primaDellaTesi : Except Thrown ProgettoViewModel) = .ok after ∧
      (Creato datiTesi Store.empty calls after final ∨
        NonCreato Store.empty calls after final) := by
  obtain ⟨data, final, run⟩ : ∃ data final,
      Runs network creaTesi Store.empty [⟨.add .progetti data, .ok "u"⟩, ⟨.onSuccess "u", .ok ()⟩]
        (.ok primaDellaTesi) final := ⟨_, _, .of_runAlone [.inr "u", .inr ""] rfl⟩
  refine ⟨_, final, run, (creation_reports_iff run).mpr (.inr ⟨rfl, ?_, .inl ⟨data, ?_⟩⟩)⟩
  all_goals simp

/-- The store assigns another one, and the callback is told about a project that
does not exist. -/
theorem creation_reports_unknown_project : ∃ calls final,
    Runs network creaTesi Store.empty calls (.ok primaDellaTesi) final ∧
    ¬ (Creato datiTesi Store.empty calls primaDellaTesi final ∨
      NonCreato Store.empty calls primaDellaTesi final) := by
  refine ⟨_, _, .of_runAlone [.inr "p", .inr ""] rfl, ?_⟩
  rintro (created | unchanged)
  · obtain ⟨id, p, alone, answers, -⟩ := created.avviso
    cases alone
    obtain ⟨d, stored, -⟩ := answers_getProgettoById_iff.mp answers
    cases stored
  · cases unchanged.avviso

end TeamSync.Projects
