import TeamSync.Library.Guarded
import TeamSync.ViewModel.ProgettoViewModel

/-! Loads of the projects that overlap on one view model.

A load sets the list of the projects when that arrives, and their open tasks
when the last of them has been counted.
-/

set_option autoImplicit false

namespace TeamSync.Screens.ProjectLoads

open Effects

/-- How far a call of `caricaProgettiUtente` has come. -/
inductive Carico where
  | avviato
  -- the list has arrived, and the projects in `restanti` are still to be counted
  | conta (progetti : List Progetto) (attivitaMap : List (String × Nat)) (restanti : List Progetto)
  | finito (progetti : List Progetto) (attivitaMap : List (String × Nat))
  deriving DecidableEq, Repr

/-- The fields of the view model that loads set, and the loads themselves. -/
structure Stato where
  progetti : List Progetto
  attivitaProgetti : List (String × Nat)
  isLoading : Bool
  carichi : List Carico
  deriving DecidableEq, Repr

def Stato.inizio : Stato := ⟨[], [], false, []⟩

def chiave (progetto : Progetto) : String := progetto.id.getD ""

def avanza (s : Stato) (k : Nat) (progetti : List Progetto) (attivitaMap : List (String × Nat))
    (restanti : List Progetto) : Stato :=
  -- a load goes on to the next count, or ends
  match restanti with
  | [] => { s with
      attivitaProgetti := attivitaMap
      isLoading := false
      carichi := s.carichi.set k (.finito progetti attivitaMap) }
  | restanti => { s with carichi := s.carichi.set k (.conta progetti attivitaMap restanti) }

/-- Loads are numbered from the most recently started one, which is number zero. -/
inductive Evento where
  | avvia (loadingInit : Bool)
  | elenca (k : Nat) (progetti : List Progetto)
  | conta (k : Nat) (attivitaNonCompletate : Nat)

def Evento.esegui : Evento → Stato → Stato
  | .avvia loadingInit, s => { s with isLoading := loadingInit, carichi := .avviato :: s.carichi }
  | .elenca k progetti, s => avanza { s with progetti := progetti } k progetti [] progetti
  | .conta k attivitaNonCompletate, s =>
    match s.carichi[k]? with
    | some (.conta progetti attivitaMap (progetto :: restanti)) =>
      avanza s k progetti (attivitaMap ++ [(chiave progetto, attivitaNonCompletate)]) restanti
    | _ => s

/-- Answers are what the calls return, from the database as it is at that time. -/
def Possibile (userId : String) (s : Stato) : Evento → Prop
  | .avvia _ => True
  | .elenca k progetti => s.carichi[k]? = some .avviato ∧ ∃ store calls final,
      Runs network (RepositoryProgetto.getProgettiUtente userId) store calls (.ok progetti) final
  | .conta k n => ∃ progetti attivitaMap progetto restanti,
      s.carichi[k]? = some (.conta progetti attivitaMap (progetto :: restanti)) ∧
      ∃ store calls final, Runs network
        (TodoRepository.countNonCompletedTodoByProject (chiave progetto)) store calls (.ok n) final

def Passo (userId : String) (s : Stato) (evento : Evento) (final : Stato) : Prop :=
  Possibile userId s evento ∧ final = evento.esegui s

def Fermo (s : Stato) : Prop :=
  ∀ c ∈ s.carichi, ∃ progetti attivitaMap, c = .finito progetti attivitaMap

/-- The projects are those of the most recently started load, and the counts are
the counts of these projects that the same load has got. -/
def UltimoVince (s : Stato) : Prop :=
  ∀ c ∈ s.carichi.head?, c = .finito s.progetti s.attivitaProgetti ∧
    s.attivitaProgetti.map Prod.fst = s.progetti.map chiave

/-- An older load is answered before the most recently started one, or with the
same answer: its list, and the last of its counts. -/
def NonScavalca (s : Stato) : Evento → Prop
  | .avvia _ => True
  | .elenca k progetti => k = 0 ∨ s.carichi.head? = some .avviato ∨ progetti = s.progetti
  | .conta k n => k = 0 ∨ (∀ progetti attivitaMap,
      s.carichi.head? ≠ some (.finito progetti attivitaMap)) ∨
      ∀ progetti attivitaMap progetto,
        s.carichi[k]? = some (.conta progetti attivitaMap [progetto]) →
        attivitaMap ++ [(chiave progetto, n)] = s.attivitaProgetti

def Carico.InOrdine : Carico → Prop
  | .avviato => True
  | .conta progetti attivitaMap restanti =>
    attivitaMap.map Prod.fst ++ restanti.map chiave = progetti.map chiave
  | .finito progetti attivitaMap => attivitaMap.map Prod.fst = progetti.map chiave

def Vince (s : Stato) : Carico → Prop
  | .avviato => True
  | .conta progetti _ _ => s.progetti = progetti
  | .finito progetti attivitaMap => s.progetti = progetti ∧ s.attivitaProgetti = attivitaMap

section
variable {userId : String} {s : Stato} {evento : Evento}

theorem inOrdine_avanza {k : Nat} {progetti restanti : List Progetto}
    {attivitaMap : List (String × Nat)} (holds : ∀ c ∈ s.carichi, c.InOrdine)
    (next : attivitaMap.map Prod.fst ++ restanti.map chiave = progetti.map chiave) :
    ∀ c ∈ (avanza s k progetti attivitaMap restanti).carichi, c.InOrdine := by
  intro c member
  unfold avanza at member
  split at member
  · rcases List.mem_or_eq_of_mem_set member with before | rfl
    · exact holds c before
    · simpa [Carico.InOrdine] using next
  · rcases List.mem_or_eq_of_mem_set member with before | rfl
    · exact holds c before
    · exact next

theorem inOrdine_esegui (holds : ∀ c ∈ s.carichi, c.InOrdine)
    (possible : Possibile userId s evento) :
    ∀ c ∈ (evento.esegui s).carichi, c.InOrdine := by
  cases evento with
  | avvia loadingInit => exact List.forall_mem_cons.mpr ⟨trivial, holds⟩
  | elenca k progetti => exact inOrdine_avanza (s := { s with progetti := progetti }) holds rfl
  | conta k n =>
    obtain ⟨progetti, attivitaMap, progetto, restanti, here, -⟩ := possible
    simp only [Evento.esegui, here]
    apply inOrdine_avanza holds
    have before : attivitaMap.map Prod.fst ++ (progetto :: restanti).map chiave =
        progetti.map chiave := holds _ (List.mem_of_getElem? here)
    simpa using before

section
variable {k : Nat} {progetti restanti : List Progetto} {attivitaMap : List (String × Nat)}

@[simp] theorem progetti_avanza :
    (avanza s k progetti attivitaMap restanti).progetti = s.progetti := by
  unfold avanza
  split <;> rfl

theorem attivitaProgetti_avanza : (avanza s k progetti attivitaMap restanti).attivitaProgetti =
    if restanti = [] then attivitaMap else s.attivitaProgetti := by
  unfold avanza
  split
  · rfl
  · next more => rw [if_neg more]

theorem head_avanza_succ : (avanza s (k + 1) progetti attivitaMap restanti).carichi.head? =
    s.carichi.head? := by
  unfold avanza
  split <;> cases s.carichi <;> rfl

theorem vince_avanza_zero (shown : s.progetti = progetti) :
    ∀ c ∈ (avanza s 0 progetti attivitaMap restanti).carichi.head?,
      Vince (avanza s 0 progetti attivitaMap restanti) c := by
  unfold avanza
  split <;> cases s.carichi
  · rintro c ⟨⟩
  · rintro c ⟨⟩
    exact ⟨shown, rfl⟩
  · rintro c ⟨⟩
  · rintro c ⟨⟩
    exact shown

end

theorem exists_head {k : Nat} {c : Carico} (here : s.carichi[k]? = some c) :
    ∃ newest, s.carichi.head? = some newest := by
  cases found : s.carichi with
  | nil =>
    rw [found] at here
    cases here
  | cons newest rest => exact ⟨newest, rfl⟩

theorem elenca_succ_iff (k : Nat) (progetti : List Progetto) {newest : Carico}
    (ordered : newest.InOrdine) (good : Vince s newest) :
    Vince (avanza { s with progetti := progetti } (k + 1) progetti [] progetti) newest ↔
      newest = .avviato ∨ progetti = s.progetti := by
  cases newest with
  | avviato => exact iff_of_true trivial (.inl rfl)
  | conta listed attivitaMap restanti =>
    have same : s.progetti = listed := good
    simp [Vince, same]
  | finito listed attivitaMap =>
    obtain ⟨same, counted⟩ : s.progetti = listed ∧ s.attivitaProgetti = attivitaMap := good
    simp only [Vince, progetti_avanza, attivitaProgetti_avanza, reduceCtorEq, false_or, same]
    refine and_iff_left_of_imp ?_
    rintro rfl
    split
    · next none =>
      -- no projects, and no counts
      have keys : attivitaMap.map Prod.fst = progetti.map chiave := ordered
      rw [none] at keys
      exact (List.map_eq_nil_iff.mp keys).symm
    · exact counted

theorem conta_succ_iff (k : Nat) (progetti restanti : List Progetto)
    (attivitaMap : List (String × Nat)) {newest : Carico} (good : Vince s newest) :
    Vince (avanza s (k + 1) progetti attivitaMap restanti) newest ↔
      (∀ progetti attivitaMap, newest ≠ .finito progetti attivitaMap) ∨
        (restanti = [] → attivitaMap = s.attivitaProgetti) := by
  cases newest with
  | avviato => exact iff_of_true trivial (.inl (by simp))
  | conta listed counted left =>
    refine iff_of_true ?_ (.inl (by simp))
    have same : s.progetti = listed := good
    simpa [Vince] using same
  | finito listed counted =>
    obtain ⟨same, shown⟩ : s.progetti = listed ∧ s.attivitaProgetti = counted := good
    simp only [Vince, progetti_avanza, attivitaProgetti_avanza, same, true_and, shown]
    split <;> simp_all

theorem vince_iff (holds : ∀ c ∈ s.carichi, c.InOrdine) (good : ∀ c ∈ s.carichi.head?, Vince s c)
    (possible : Possibile userId s evento) :
    (∀ c ∈ (evento.esegui s).carichi.head?, Vince (evento.esegui s) c) ↔ NonScavalca s evento := by
  cases evento with
  | avvia loadingInit =>
    refine iff_of_true ?_ trivial
    rintro c ⟨⟩
    trivial
  | elenca k progetti =>
    cases k with
    | zero => exact iff_of_true (vince_avanza_zero rfl) (.inl rfl)
    | succ k =>
      obtain ⟨newest, top⟩ := exists_head possible.1
      have after := elenca_succ_iff k progetti
        (holds newest (List.mem_of_mem_head? top)) (good newest top)
      simp only [Evento.esegui, head_avanza_succ, top, NonScavalca]
      simpa using after
  | conta k n =>
    obtain ⟨progetti, attivitaMap, progetto, restanti, here, -⟩ := possible
    simp only [Evento.esegui, here]
    cases k with
    | zero =>
      have listed : s.progetti = progetti := by
        have top : s.carichi.head? = some (.conta progetti attivitaMap (progetto :: restanti)) := by
          rw [List.head?_eq_getElem?, here]
        exact good _ top
      exact iff_of_true (vince_avanza_zero listed) (.inl rfl)
    | succ k =>
      obtain ⟨newest, top⟩ := exists_head here
      have after := conta_succ_iff k progetti restanti
        (attivitaMap ++ [(chiave progetto, n)]) (good newest top)
      simp only [head_avanza_succ, top, NonScavalca, here]
      simpa using after

theorem ultimoVince_iff (ordered : ∀ c ∈ s.carichi, c.InOrdine) (still : Fermo s) :
    UltimoVince s ↔ ∀ c ∈ s.carichi.head?, Vince s c := by
  refine forall₂_congr fun c top => ?_
  have member := List.mem_of_mem_head? top
  obtain ⟨progetti, attivitaMap, rfl⟩ := still c member
  have keys : attivitaMap.map Prod.fst = progetti.map chiave := ordered _ member
  simp only [Carico.finito.injEq, Vince]
  constructor
  · rintro ⟨⟨listed, counted⟩, -⟩
    exact ⟨listed.symm, counted.symm⟩
  · rintro ⟨listed, counted⟩
    rw [listed, counted]
    exact ⟨⟨rfl, rfl⟩, keys⟩

end

/-- As long as no answer overtakes, the most recently started load wins as a
whole whenever no load is pending; and an answer after which none is pending
leaves it so just when it overtakes none either. -/
theorem latest_load_wins_iff {userId : String} {s : Stato}
    (run : GuardedRun (Passo userId) NonScavalca .inizio s) :
    (Fermo s → UltimoVince s) ∧ ∀ evento final, Passo userId s evento final → Fermo final →
      (UltimoVince final ↔ NonScavalca s evento) := by
  have ordered : (∀ c ∈ s.carichi, c.InOrdine) ∧ ∀ c ∈ s.carichi.head?, Vince s c := by
    refine run.keeps (fun s => ∀ c ∈ s.carichi, c.InOrdine)
      (fun s => ∀ c ∈ s.carichi.head?, Vince s c) ?_ ?_ ?_ ?_
    · rintro s evento _ holds ⟨possible, rfl⟩
      exact inOrdine_esegui holds possible
    · rintro s evento _ holds good ⟨possible, rfl⟩
      exact vince_iff holds good possible
    · intro c member
      cases member
    · intro c top
      cases top
  refine ⟨fun still => (ultimoVince_iff ordered.1 still).mpr ordered.2, ?_⟩
  rintro evento _ ⟨possible, rfl⟩ still
  rw [ultimoVince_iff (inOrdine_esegui ordered.1 possible) still]
  exact vince_iff ordered.1 ordered.2 possible

/-! ## A call of the view model, as a load -/

section
variable {userId : String} {st final : Store} {calls : List (Exchange firestore Thrown)}

theorem conta_run (userId : String) (progetti : List Progetto)
    (attivitaMap : List (String × Nat)) {restanti : List Progetto} {attivita : List (String × Nat)}
    {s : Stato} {c : Carico} {altri : List Carico} (top : s.carichi = c :: altri)
    (run : Runs network (ProgettoViewModel.contaAttivita restanti) st calls (.ok attivita) final) :
    ∃ t, GuardedRun (Passo userId) (fun _ _ => True) (avanza s 0 progetti attivitaMap restanti) t ∧
      t.progetti = s.progetti ∧ t.isLoading = false ∧
      t.attivitaProgetti = attivitaMap ++ attivita := by
  induction restanti generalizing st calls attivitaMap attivita s c with
  | nil =>
    obtain ⟨-, same, -⟩ := runs_done_iff.mp run
    cases same
    exact ⟨_, .refl, rfl, rfl, (List.append_nil _).symm⟩
  | cons progetto restanti ih =>
    rcases runs_bind_iff.mp run with ⟨e, -, failed⟩ | ⟨n, first, rest, mid, counted, after, -⟩
    · cases failed
    rcases runs_bind_iff.mp after with ⟨e, -, failed⟩ | ⟨altre, first', rest', mid', left, ended, -⟩
    · cases failed
    obtain ⟨-, same, rfl⟩ := runs_done_iff.mp ended
    cases same
    -- the answer to the first of the counts
    let asked := avanza s 0 progetti attivitaMap (progetto :: restanti)
    have head : asked.carichi = .conta progetti attivitaMap (progetto :: restanti) :: altri := by
      simp only [asked, avanza, top, List.set_cons_zero]
    have here : asked.carichi[0]? = some (.conta progetti attivitaMap (progetto :: restanti)) := by
      rw [head]
      rfl
    have step : Passo userId asked (.conta 0 n) (avanza asked 0 progetti
        (attivitaMap ++ [(chiave progetto, n)]) restanti) := by
      refine ⟨⟨_, _, _, _, here, st, first, mid, counted⟩, ?_⟩
      simp only [Evento.esegui, here]
    obtain ⟨t, reached, listed, loading, shown⟩ := ih _ head left
    exact ⟨t, .head ⟨_, trivial, step⟩ reached, listed, loading, by rw [shown]; simp [chiave]⟩

/-- A complete run of `caricaProgettiUtente` that nothing overlaps, as a load. -/
theorem caricaProgettiUtente_run {vm after : ProgettoViewModel} (s : Stato) (loadingInit : Bool)
    (run : Runs network (vm.caricaProgettiUtente userId) st calls (.ok after) final) :
    ∃ t, GuardedRun (Passo userId) (fun _ _ => True) s t ∧ t.progetti = after.progetti ∧
      t.attivitaProgetti = after.attivitaProgetti ∧ t.isLoading = after.isLoading := by
  rcases runs_bind_iff.mp run with ⟨e, -, failed⟩ | ⟨progetti, first, rest, mid, listed, left, -⟩
  · cases failed
  rcases runs_bind_iff.mp left with ⟨e, -, failed⟩ |
    ⟨attivita, first', rest', mid', counted, ended, -⟩
  · cases failed
  obtain ⟨-, same, rfl⟩ := runs_done_iff.mp ended
  cases same
  have started : Passo userId s (.avvia loadingInit) ((Evento.avvia loadingInit).esegui s) :=
    ⟨trivial, rfl⟩
  have answered : Passo userId ((Evento.avvia loadingInit).esegui s) (.elenca 0 progetti)
      ((Evento.elenca 0 progetti).esegui ((Evento.avvia loadingInit).esegui s)) :=
    ⟨⟨rfl, st, first, mid, listed⟩, rfl⟩
  obtain ⟨t, reached, same, loading, shown⟩ := conta_run userId progetti []
    (s := { (Evento.avvia loadingInit).esegui s with progetti := progetti }) rfl counted
  exact ⟨t, .head ⟨_, trivial, started⟩ (.head ⟨_, trivial, answered⟩ reached), same, shown,
    loading⟩

end

/-! ## Two loads of one user -/

def tesi : Progetto :=
  ⟨some "p", "Tesi", some "", ⟨0, false⟩, ⟨0, false⟩, ⟨0, false⟩, .media, ["anna"], "Non Valutato",
    false, "01234567"⟩

def conTesi : Store := Store.empty.put .progetti "p" (RepositoryProgetto.creaProgettoMap tesi)

theorem elenca_tesi : ∃ store calls final,
    Runs network (RepositoryProgetto.getProgettiUtente "anna") store calls (.ok [tesi]) final :=
  ⟨conTesi, _, conTesi, .of_runAlone [.inr ""] rfl⟩

theorem elenca_nulla : ∃ store calls final,
    Runs network (RepositoryProgetto.getProgettiUtente "anna") store calls (.ok []) final :=
  ⟨.empty, _, .empty, .of_runAlone [.inr ""] rfl⟩

theorem conta_tesi : ∃ store calls final,
    Runs network (TodoRepository.countNonCompletedTodoByProject (chiave tesi)) store calls (.ok 0)
      final :=
  ⟨conTesi, _, conTesi, .of_runAlone [.inr ""] rfl⟩

theorem latest_load_wins_iff_anna : ∃ s, UltimoVince s ∧ s.progetti = [tesi] ∧
    s.attivitaProgetti = [("p", 0)] ∧ Fermo s := by
  have started : GuardedRun (Passo "anna") NonScavalca .inizio
      ((Evento.avvia true).esegui .inizio) :=
    .single ⟨.avvia true, trivial, trivial, rfl⟩
  have listed := started.tail ⟨.elenca 0 [tesi], .inl rfl, ⟨rfl, elenca_tesi⟩, rfl⟩
  have counted := listed.tail ⟨.conta 0 0, .inl rfl, ⟨_, _, _, _, rfl, conta_tesi⟩, rfl⟩
  have still : Fermo ((Evento.conta 0 0).esegui ((Evento.elenca 0 [tesi]).esegui
      ((Evento.avvia true).esegui .inizio))) :=
    List.forall_mem_cons.mpr ⟨⟨_, _, rfl⟩, List.forall_mem_nil _⟩
  exact ⟨_, (latest_load_wins_iff counted).1 still, rfl, rfl, still⟩

/-- The first of two loads has read before anna was in the project, and its answer comes last. -/
theorem older_load_wins : ∃ s,
    GuardedRun (Passo "anna") (fun _ _ => True) .inizio s ∧ Fermo s ∧
    s.carichi.head? = some (.finito [tesi] [("p", 0)]) ∧ s.progetti = [] ∧ ¬ UltimoVince s := by
  have first : GuardedRun (Passo "anna") (fun _ _ => True) .inizio
      ((Evento.avvia true).esegui .inizio) := .single ⟨.avvia true, trivial, trivial, rfl⟩
  have second := first.tail ⟨.avvia true, trivial, trivial, rfl⟩
  have listed := second.tail ⟨.elenca 0 [tesi], trivial, ⟨rfl, elenca_tesi⟩, rfl⟩
  have counted := listed.tail ⟨.conta 0 0, trivial, ⟨_, _, _, _, rfl, conta_tesi⟩, rfl⟩
  have late := counted.tail ⟨.elenca 1 [], trivial, ⟨rfl, elenca_nulla⟩, rfl⟩
  refine ⟨_, late, ?_, rfl, rfl, fun wins => ?_⟩
  · exact List.forall_mem_cons.mpr ⟨⟨_, _, rfl⟩, List.forall_mem_cons.mpr
      ⟨⟨_, _, rfl⟩, List.forall_mem_nil _⟩⟩
  · have shown := (wins _ rfl).1
    cases shown

end TeamSync.Screens.ProjectLoads
