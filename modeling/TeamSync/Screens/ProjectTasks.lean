import TeamSync.Library.Contract
import TeamSync.Library.Guarded
import TeamSync.ViewModel.ProgettoViewModel

/-! The screens of projects over the view model that they share.

A load of tasks goes through two moments: the view model sets its list, and the
screen that has started the load goes on and clears its flag. Screens may have
been closed in between, and loads are answered in any order.
-/

set_option autoImplicit false

namespace TeamSync.Screens.ProjectTasks

open Effects

inductive Scheda where
  | leMie
  | nonCompletate
  | completate
  deriving DecidableEq, Repr

structure LemieAttivita where
  numero : Nat
  idProgetto : String
  scheda : Scheda
  isLoadingAttivita : Bool
  deriving DecidableEq, Repr

structure Caricamento where
  schermata : Nat
  progettoId : String
  scheda : Scheda
  deriving DecidableEq, Repr

def Caricamento.programma (userId : String) (c : Caricamento) : App (List LeMieAttivita) :=
  match c.scheda with
  | .leMie => ProgettoViewModel.caricaLeMieAttivitaNonCompletate c.progettoId userId
  | .nonCompletate => ProgettoViewModel.caricaTutteLeAttivitaNonCompletate c.progettoId
  | .completate => ProgettoViewModel.caricaTutteLeAttivitaCompletate c.progettoId

structure Stato where
  -- `attivitaNonCompletate`, `attivitaNonCompletateAll` and `attivitaCompletate`, by the tab
  -- that shows them
  attivita : Scheda → List LeMieAttivita
  -- the project of the load that has last set each list
  origine : Scheda → Option String
  aperte : List LemieAttivita
  create : Nat
  -- loads that have not been answered
  attese : List Caricamento
  -- loads that have set their list and whose screen has not gone on
  risposti : List Caricamento

def Stato.inizio : Stato := ⟨fun _ => [], fun _ => none, [], 0, [], []⟩

def caricamentiDi (schermata : LemieAttivita) (scheda : Scheda) : List Caricamento :=
  -- what a tab loads when it is tapped
  match scheda with
  | .leMie => [⟨schermata.numero, schermata.idProgetto, .leMie⟩,
      ⟨schermata.numero, schermata.idProgetto, .nonCompletate⟩]
  | scheda => [⟨schermata.numero, schermata.idProgetto, scheda⟩]

inductive Evento where
  | apri (idProgetto : String)
  | chiudi
  | tocca (scheda : Scheda)
  | risponde (c : Caricamento) (lista : List LeMieAttivita)
  | prosegue (c : Caricamento)

def Evento.esegui : Evento → Stato → Stato
  | .apri idProgetto, s => { s with
      aperte := ⟨s.create, idProgetto, .leMie, true⟩ :: s.aperte
      create := s.create + 1
      attese := ⟨s.create, idProgetto, .leMie⟩ :: s.attese }
  | .chiudi, s => { s with aperte := s.aperte.tail }
  | .tocca scheda, s =>
    match s.aperte with
    | [] => s
    | schermata :: sotto => { s with
        aperte := { schermata with scheda := scheda, isLoadingAttivita := true } :: sotto
        attese := caricamentiDi schermata scheda ++ s.attese }
  | .risponde c lista, s => { s with
      attivita := Function.update s.attivita c.scheda lista
      origine := Function.update s.origine c.scheda (some c.progettoId)
      attese := s.attese.erase c
      risposti := c :: s.risposti }
  -- a screen that is closed has no flag any more
  | .prosegue c, s => { s with
      aperte := s.aperte.map fun schermata =>
        if schermata.numero = c.schermata then { schermata with isLoadingAttivita := false }
        else schermata
      risposti := s.risposti.erase c }

/-- A load is answered with what its call returns, from the database as it is at that time. -/
def Possibile (userId : String) (s : Stato) : Evento → Prop
  | .risponde c lista => c ∈ s.attese ∧ ∃ store calls final,
      Runs network (c.programma userId) store calls (.ok lista) final
  | .prosegue c => c ∈ s.risposti
  | _ => True

def Passo (userId : String) (s : Stato) (evento : Evento) (final : Stato) : Prop :=
  Possibile userId s evento ∧ final = evento.esegui s

def SoloSue (s : Stato) : Prop :=
  ∀ schermata ∈ s.aperte.head?, schermata.isLoadingAttivita = false →
    ∀ a ∈ s.attivita schermata.scheda, a.progetto = schermata.idProgetto

def DelSuoProgetto (s : Stato) (schermata : LemieAttivita) : Prop :=
  s.attivita schermata.scheda = [] ∨ s.origine schermata.scheda = some schermata.idProgetto

/-- No screen is uncovered and none stops loading over a list of another project,
and no list of another project arrives under a screen that is showing it. -/
def SenzaListeAltrui (s : Stato) : Evento → Prop
  | .chiudi => ∀ schermata ∈ s.aperte.tail.head?, schermata.isLoadingAttivita = false →
      DelSuoProgetto s schermata
  | .risponde c lista => ∀ schermata ∈ s.aperte.head?, schermata.isLoadingAttivita = false →
      schermata.scheda = c.scheda → lista = [] ∨ c.progettoId = schermata.idProgetto
  | .prosegue c => ∀ schermata ∈ s.aperte.head?, schermata.numero = c.schermata →
      DelSuoProgetto s schermata
  | _ => True

/-- Every list holds tasks of the project that it has been loaded for. -/
def OrigineVera (s : Stato) : Prop :=
  ∀ scheda, ∀ a ∈ s.attivita scheda, s.origine scheda = some a.progetto

/-! ## What a load is answered with -/

def filtrate : Contract firestore Thrown where
  guarantee _ := True
  rely
    | .query _ filters, reply => ∀ docs, reply = .ok docs → ∀ doc ∈ docs, ∀ f ∈ filters,
        f.holds doc.2 = true
    | _, _ => True

theorem network_fulfils_filtrate :
    network.Fulfils filtrate (fun _ => True) (fun _ => True) := by
  intro choice op s reply final _ _ _ answered
  refine ⟨?_, trivial⟩
  cases op with
  | query c filters =>
    rintro docs rfl ⟨id, d⟩ listed
    rcases network_cases answered with ⟨e, failed, -⟩ | ⟨newId, answered⟩
    · cases failed
    · cases answered
      exact (Store.mem_trovati.mp listed).2
  | _ => trivial

abbrev TutteDi (progettoId : String) (lista : List LeMieAttivita) : Prop :=
  ∀ a ∈ lista, a.progetto = progettoId

theorem respects_getAttivita (progettoId : String) :
    (TodoRepository.getAttivitaByProgettoId progettoId).Respects filtrate (TutteDi progettoId) := by
  have searched : (query .todo [.isEqualTo "progetto" (.string progettoId)]).Respects filtrate
      fun docs => ∀ doc ∈ docs, doc.2 "progetto" = some (.string progettoId) := by
    refine .perform trivial fun docs matched doc listed => ?_
    simpa [Filter.holds] using matched docs rfl doc listed
  refine .rescue (.bind searched ?_) fun _ => ?_
  · intro docs matched
    refine .ofExcept fun lista read a member => ?_
    obtain ⟨doc, listed, decoded⟩ := of_mem_mapM read member
    obtain ⟨data, same, decodes⟩ := LeMieAttivita.fromFirestore_eq_ok.mp decoded
    cases same
    have field := decodes.progetto
    rw [matched doc listed] at field
    cases field
    rfl
  · intro a member
    cases member

theorem respects_programma (userId : String) (c : Caricamento) :
    (c.programma userId).Respects filtrate (TutteDi c.progettoId) := by
  have kept : ∀ (keep : LeMieAttivita → Bool) lista, TutteDi c.progettoId lista →
      TutteDi c.progettoId (lista.filter keep) :=
    fun keep lista all a member => all a (List.mem_of_mem_filter member)
  unfold Caricamento.programma
  cases c.scheda with
  | leMie | nonCompletate | completate =>
    exact .bind (respects_getAttivita c.progettoId) (kept _)

section
variable {userId : String} {s : Stato} {evento : Evento}

theorem tutteDi_of_possibile {c : Caricamento} {lista : List LeMieAttivita}
    (possible : Possibile userId s (.risponde c lista)) : TutteDi c.progettoId lista := by
  obtain ⟨-, store, calls, final, run⟩ := possible
  exact (run.respects network_fulfils_filtrate (fun _ _ => trivial)
    (respects_programma userId c) trivial).2 lista rfl

/-! ## One event -/

theorem origineVera_esegui (holds : OrigineVera s) (possible : Possibile userId s evento) :
    OrigineVera (evento.esegui s) := by
  cases evento with
  | risponde c lista =>
    intro scheda a member
    simp only [Evento.esegui] at member ⊢
    by_cases same : scheda = c.scheda
    · subst same
      rw [Function.update_self] at member ⊢
      rw [tutteDi_of_possibile possible a member]
    · rw [Function.update_of_ne same] at member ⊢
      exact holds scheda a member
  | tocca scheda =>
    simp only [Evento.esegui]
    split <;> exact holds
  | apri idProgetto | chiudi | prosegue c => exact holds

theorem tutteDi_iff (holds : OrigineVera s) (schermata : LemieAttivita) :
    TutteDi schermata.idProgetto (s.attivita schermata.scheda) ↔ DelSuoProgetto s schermata := by
  constructor
  · intro all
    cases found : s.attivita schermata.scheda with
    | nil => exact .inl found
    | cons a rest =>
      have member : a ∈ s.attivita schermata.scheda := by
        rw [found]
        exact List.mem_cons_self
      rw [DelSuoProgetto, holds _ a member, all a member]
      exact .inr rfl
  · rintro (empty | loaded) a member
    · rw [empty] at member
      cases member
    · exact Option.some.inj ((holds _ a member).symm.trans loaded)

theorem soloSue_prosegue_iff {c : Caricamento} : SoloSue ((Evento.prosegue c).esegui s) ↔
    ∀ schermata ∈ s.aperte.head?,
      (schermata.numero ≠ c.schermata → schermata.isLoadingAttivita = false) →
      TutteDi schermata.idProgetto (s.attivita schermata.scheda) := by
  simp only [SoloSue, Evento.esegui, List.head?_map, Option.mem_def, Option.map_eq_some_iff]
  constructor
  · intro after schermata top visible
    have now := after _ ⟨schermata, top, rfl⟩
    by_cases own : schermata.numero = c.schermata
    · rw [if_pos own] at now
      exact now rfl
    · rw [if_neg own] at now
      exact now (visible own)
  · rintro after _ ⟨schermata, top, rfl⟩
    split
    · next own => exact fun _ => after schermata top fun other => absurd own other
    · exact fun visible => after schermata top fun _ => visible

theorem soloSue_iff (holds : OrigineVera s) (good : SoloSue s)
    (possible : Possibile userId s evento) :
    SoloSue (evento.esegui s) ↔ SenzaListeAltrui s evento := by
  cases evento with
  | apri idProgetto =>
    refine iff_of_true ?_ trivial
    rintro schermata ⟨⟩ ⟨⟩
  | chiudi =>
    exact forall₂_congr fun schermata _ => imp_congr_right fun _ => tutteDi_iff holds schermata
  | tocca scheda =>
    refine iff_of_true ?_ trivial
    simp only [Evento.esegui]
    split
    · exact good
    · rintro schermata ⟨⟩ ⟨⟩
  | risponde c lista =>
    refine forall₂_congr fun schermata shown => imp_congr_right fun visible => ?_
    have all := tutteDi_of_possibile possible
    change TutteDi schermata.idProgetto
      (Function.update s.attivita c.scheda lista schermata.scheda) ↔ _
    by_cases same : schermata.scheda = c.scheda
    · rw [same, Function.update_self]
      refine ⟨fun here _ => ?_, fun loaded => ?_⟩
      · cases lista with
        | nil => exact .inl rfl
        | cons a rest =>
          exact .inr ((all a List.mem_cons_self).symm.trans (here a List.mem_cons_self))
      · rcases loaded rfl with rfl | own
        · intro a member
          cases member
        · exact own ▸ all
    · rw [Function.update_of_ne same]
      exact iff_of_true (good schermata shown visible) fun here => absurd here same
  | prosegue c =>
    rw [soloSue_prosegue_iff]
    refine forall₂_congr fun schermata top => ?_
    rw [tutteDi_iff holds]
    by_cases own : schermata.numero = c.schermata
    · simp [own]
    · refine iff_of_true (fun visible => ?_) fun here => absurd here own
      exact (tutteDi_iff holds schermata).mp (good schermata top (visible own))

end

/-- From the start, as long as no event brings a list of another project under the screen that
is shown, it shows the tasks of its project only; and the next event leaves it so just when
it brings none either. -/
theorem screen_shows_its_tasks_iff {userId : String} {s : Stato}
    (run : GuardedRun (Passo userId) SenzaListeAltrui .inizio s) :
    SoloSue s ∧ ∀ evento final, Passo userId s evento final →
      (SoloSue final ↔ SenzaListeAltrui s evento) := by
  refine run.iff OrigineVera SoloSue ?_ ?_ ?_ ?_
  · rintro s evento _ holds ⟨possible, rfl⟩
    exact origineVera_esegui holds possible
  · rintro s evento _ holds good ⟨possible, rfl⟩
    exact soloSue_iff holds good possible
  · intro scheda a member
    cases member
  · intro schermata shown
    cases shown

/-! ## Two projects, opened one after the other -/

def conCapitolo : Store := Store.empty.put .todo "t" (LeMieAttivita.toMap
  ⟨none, "Capitolo 1", "", ⟨0, false⟩, ⟨0, false⟩, .media, false, "p", ["anna"], none⟩)

def capitolo : LeMieAttivita :=
  ⟨some "t", "Capitolo 1", "", ⟨0, false⟩, ⟨0, false⟩, .media, false, "p", ["anna"], none⟩

theorem risponde_capitolo : ∃ store calls final,
    Runs network ((⟨0, "p", .leMie⟩ : Caricamento).programma "anna") store calls (.ok [capitolo])
      final :=
  ⟨conCapitolo, _, conCapitolo, .of_runAlone [.inr ""] rfl⟩

theorem risponde_nulla (c : Caricamento) : ∃ store calls final,
    Runs network (c.programma "anna") store calls (.ok []) final := by
  obtain ⟨schermata, progettoId, scheda⟩ := c
  refine ⟨.empty, ?_⟩
  cases scheda <;> exact ⟨_, .empty, .of_runAlone [.inr ""] rfl⟩

theorem screen_shows_its_tasks_iff_anna : ∃ s, SoloSue s ∧
    s.aperte = [⟨0, "p", .leMie, false⟩] ∧ s.attivita .leMie = [capitolo] := by
  have opened : GuardedRun (Passo "anna") SenzaListeAltrui .inizio
      ((Evento.apri "p").esegui .inizio) :=
    .single ⟨.apri "p", trivial, trivial, rfl⟩
  have answered := opened.tail ⟨.risponde ⟨0, "p", .leMie⟩ [capitolo], by rintro _ ⟨⟩ ⟨⟩,
    ⟨List.mem_cons_self, risponde_capitolo⟩, rfl⟩
  have ended := answered.tail ⟨.prosegue ⟨0, "p", .leMie⟩,
    by rintro _ ⟨⟩ _; exact .inr rfl, List.mem_cons_self, rfl⟩
  exact ⟨_, (screen_shows_its_tasks_iff ended).1, rfl, rfl⟩

/-- Anna leaves project p before its tasks have arrived, and they arrive on project q. -/
theorem late_tasks_on_another_screen : ∃ s,
    GuardedRun (Passo "anna") (fun _ _ => True) .inizio s ∧
    s.aperte = [⟨1, "q", .leMie, false⟩] ∧ s.attivita .leMie = [capitolo] ∧
    capitolo.progetto = "p" ∧ ¬ SoloSue s := by
  have first : GuardedRun (Passo "anna") (fun _ _ => True) .inizio
      ((Evento.apri "p").esegui .inizio) := .single ⟨.apri "p", trivial, trivial, rfl⟩
  have closed := first.tail ⟨.chiudi, trivial, trivial, rfl⟩
  have second := closed.tail ⟨.apri "q", trivial, trivial, rfl⟩
  have answered := second.tail ⟨.risponde ⟨1, "q", .leMie⟩ [], trivial,
    ⟨List.mem_cons_self, risponde_nulla _⟩, rfl⟩
  have ended := answered.tail ⟨.prosegue ⟨1, "q", .leMie⟩, trivial, List.mem_cons_self, rfl⟩
  have late := ended.tail ⟨.risponde ⟨0, "p", .leMie⟩ [capitolo], trivial,
    ⟨List.mem_cons_self, risponde_capitolo⟩, rfl⟩
  refine ⟨_, late, rfl, rfl, rfl, fun own => ?_⟩
  have other : capitolo.progetto = "q" := own _ rfl rfl capitolo List.mem_cons_self
  revert other
  decide

end TeamSync.Screens.ProjectTasks
