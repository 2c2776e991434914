import Mathlib.Algebra.Group.Nat.Even
import TeamSync.Library.Guarded
import TeamSync.Library.Outcome
import TeamSync.Tasks.ConcurrentDelegation
import TeamSync.Tasks.Repetition

/-! The screen that delegates a task: the check of the assignments and the taps on its
buttons, one call of the database at a time.
-/

set_option autoImplicit false

namespace TeamSync.Screens.DelegaTask

open Effects Tasks

abbrev Mappa := String → Option Bool

inductive Controllo where
  | legge (restanti : List String) (tempUserAssigned : Mappa)
  | finito

def chiama (taskId : String) : Delega → App Unit
  | .aggiungi utente => LeMieAttivitaViewModel.addUserTodo utente taskId
  | .rimuovi utente => LeMieAttivitaViewModel.removeUserTodo utente taskId

def aggiunge : Delega → Bool
  | .aggiungi _ => true
  | .rimuovi _ => false

structure Tocco where
  delega : Delega
  resto : App Unit

structure Delegatask where
  userAssigned : Mappa
  controllo : Controllo
  tocco : Option Tocco
  store : Store

namespace Delegatask

def initState (partecipanti : List String) (store : Store) : Delegatask where
  -- `initState`, once the project has been read
  userAssigned := fun _ => none
  controllo := .legge partecipanti fun _ => none
  tocco := none
  store := store

def assegnato (s : Delegatask) (utente : String) : Bool := (s.userAssigned utente).getD false

def delega (s : Delegatask) (utente : String) : Delega :=
  if s.assegnato utente then .rimuovi utente else .aggiungi utente

def premi (taskId : String) (s : Delegatask) (utente : String) : Delegatask :=
  -- `onPressed`
  { s with tocco := some ⟨s.delega utente, chiama taskId (s.delega utente)⟩ }

def imposta (s : Delegatask) (delega : Delega) : Delegatask := { s with
  userAssigned := Function.update s.userAssigned delega.user (some (aggiunge delega))
  tocco := none }

end Delegatask

def diScrittura : Op → Bool
  | .get .. | .query .. => false
  | _ => true

inductive Evento where
  -- the check reads a participant
  | controlla (utente : String)
  | assegna
  | tocca (utente : String)
  -- the handler of a tap on the user gets an answer, to a write or to a read
  | avanza (utente : String) (scritta : Bool)
  | conclude
  | fallisce

/-- One step on the only client, for a task of which another assignee is left by every removal.
A tap waits for the one before it. -/
inductive Passo (taskId : String) (partecipanti : List String) :
    Delegatask → Evento → Delegatask → Prop where
  | controlla {s : Delegatask} {utente : String} {restanti : List String} {temp : Mappa}
      {calls : List (Exchange firestore Thrown)} {isAssigned : Bool} {store : Store} :
      s.controllo = .legge (utente :: restanti) temp →
      Runs service (LeMieAttivitaViewModel.utenteAssegnato utente taskId) s.store calls
        (.ok isAssigned) store →
      Passo taskId partecipanti s (.controlla utente) { s with
        controllo := .legge restanti (Function.update temp utente (some isAssigned))
        store := store }
  | assegna {s : Delegatask} {temp : Mappa} : s.controllo = .legge [] temp →
      Passo taskId partecipanti s .assegna { s with userAssigned := temp, controllo := .finito }
  | tocca {s : Delegatask} {utente : String} : s.tocco = none → utente ∈ partecipanti →
      (s.assegnato utente = true → ∃ altro, altro ≠ utente ∧ s.store.assegnato taskId altro) →
      Passo taskId partecipanti s (.tocca utente) (s.premi taskId utente)
  | avanza {s : Delegatask} {tocco : Tocco} {op : Op} {next : Reply firestore Thrown op → App Unit}
      (newId : String) {reply : Reply firestore Thrown op} {store : Store} :
      s.tocco = some tocco → tocco.resto = .call op next →
      service.exec newId op s.store = some (reply, store) →
      Passo taskId partecipanti s (.avanza tocco.delega.user (diScrittura op))
        { s with tocco := some { tocco with resto := next reply }, store := store }
  | conclude {s : Delegatask} {tocco : Tocco} : s.tocco = some tocco → tocco.resto = .done () →
      Passo taskId partecipanti s .conclude (s.imposta tocco.delega)
  | fallisce {s : Delegatask} {tocco : Tocco} {e : Thrown} : s.tocco = some tocco →
      tocco.resto = .raise e → Passo taskId partecipanti s .fallisce { s with tocco := none }

/-- At rest, the participants shown as assigned are those who are. -/
def Sincera (taskId : String) (partecipanti : List String) (s : Delegatask) : Prop :=
  s.controllo = .finito → s.tocco = none → ∀ utente,
    s.assegnato utente = true ↔ utente ∈ partecipanti ∧ s.store.assegnato taskId utente

/-- How many writes of taps on a user have been answered since the check last read him. The
latest event comes first. -/
def scritture (utente : String) : List Evento → Nat
  | [] => 0
  | .controlla letto :: prima => if letto = utente then 0 else scritture utente prima
  | .avanza toccato scritta :: prima =>
    if toccato = utente ∧ scritta then scritture utente prima + 1 else scritture utente prima
  | _ :: prima => scritture utente prima

/-- No tap and the check overtake each other: a user assigned at the start is not tapped before
the check has set the map, and when it does so, every participant, but for the one of a tap in
progress, has been written an even number of times since it has read him. -/
def SenzaSorpassi (partecipanti utenti : List String) (c : List Evento × Delegatask) :
    Evento → Prop
  | .tocca utente => utente ∈ utenti → .assegna ∈ c.1
  | .assegna => ∀ utente ∈ partecipanti, (∀ tocco ∈ c.2.tocco, tocco.delega.user ≠ utente) →
      Even (scritture utente c.1)
  | _ => True

/-! ## The handler of a tap -/

def Elenco (taskId : String) (store : Store) (utenti : List String) : Prop :=
  ∃ d a, store.get .todo taskId = some d ∧ LeMieAttivita.Decodes taskId d a ∧ a.utenti = utenti

def Sensata (utenti : List String) : Delega → Prop
  | .aggiungi utente => utente ∉ utenti
  | .rimuovi utente => utente ∈ utenti ∧ utenti.erase utente ≠ []

def cornice (p : App Unit) : App Unit :=
  p.rescue fun e => .raise (.caused "Errore durante l'aggiunta dell'utente al task: " e)

/-- The points of a handler whose call makes sense, with the assignees stored there. -/
inductive Fase (taskId : String) (delega : Delega) (store : Store) : App Unit → Prop where
  | legge {utenti : List String} : Elenco taskId store utenti → utenti.Nodup →
      Sensata utenti delega → Fase taskId delega store (cornice (carica taskId delega))
  | scrive {utenti : List String} : Elenco taskId store utenti → utenti.Nodup →
      Sensata utenti delega → Fase taskId delega store (cornice (scrivi taskId delega utenti))
  | fatta {utenti : List String} : Elenco taskId store utenti → utenti.Nodup →
      (delega.user ∈ utenti ↔ aggiunge delega = true) → Fase taskId delega store (.done ())

section
variable {taskId : String} {delega : Delega} {store final : Store} {utenti : List String}

theorem chiama_eq (taskId : String) (delega : Delega) :
    chiama taskId delega = cornice (carica taskId delega) := by
  rw [← process_eq_carica]
  cases delega <;> rfl

theorem Elenco.assegnato_iff (listed : Elenco taskId store utenti) (utente : String) :
    store.assegnato taskId utente ↔ utente ∈ utenti := by
  obtain ⟨d, a, stored, decodes, rfl⟩ := listed
  exact Tasks.assegnato_iff stored decodes

theorem elenco_put (store : Store) {d : Document} {a : LeMieAttivita}
    (decodes : LeMieAttivita.Decodes taskId d a) (utenti : List String) :
    Elenco taskId (store.put .todo taskId (d.writes [("utenti", .value (.strings utenti))]))
      utenti :=
  ⟨_, _, Store.get_put_self _ _ _ _, decodes.write_utenti utenti, rfl⟩

theorem Fase.elenco {p : App Unit} (at' : Fase taskId delega store p) :
    ∃ utenti, Elenco taskId store utenti ∧ utenti.Nodup := by
  cases at' with
  | legge listed nodup _ | scrive listed nodup _ | fatta listed nodup _ =>
    exact ⟨_, listed, nodup⟩

theorem nodup_lista (nodup : utenti.Nodup) (sensible : Sensata utenti delega) :
    (delega.lista utenti).Nodup := by
  cases delega with
  | aggiungi utente => exact List.nodup_append_comm.mp (List.nodup_cons.mpr ⟨sensible, nodup⟩)
  | rimuovi utente => exact nodup.erase utente

theorem mem_lista_iff (nodup : utenti.Nodup) (utente : String) :
    utente ∈ delega.lista utenti ↔
      if utente = delega.user then aggiunge delega = true else utente ∈ utenti := by
  by_cases same : utente = delega.user
  · rw [if_pos same]
    subst same
    cases delega with
    | aggiungi user => simp [Delega.lista, Delega.user, aggiunge]
    | rimuovi user => simp [Delega.lista, Delega.user, aggiunge, nodup.not_mem_erase]
  · rw [if_neg same]
    cases delega with
    | aggiungi user =>
      have other : utente ≠ user := same
      simp [Delega.lista, other]
    | rimuovi user => exact List.mem_erase_of_ne same

theorem concludi_sensata (taskId : String) (sensible : Sensata utenti delega) :
    concludi taskId (delega.lista utenti) delega = .done () := by
  cases delega with
  | aggiungi utente => rfl
  | rimuovi utente =>
    have left : (utenti.erase utente).isEmpty = false := by
      simpa [List.isEmpty_eq_false_iff] using sensible.2
    simp [concludi, Delega.lista, left]

theorem valuta_sensata {a : LeMieAttivita} (sensible : Sensata a.utenti delega) :
    valuta taskId delega (.ok a) = scrivi taskId delega a.utenti := by
  cases delega with
  | aggiungi utente => rfl
  | rimuovi utente => exact if_pos sensible.1

theorem Sensata.mem_iff (sensible : Sensata utenti delega) :
    delega.user ∈ utenti ↔ aggiunge delega = false := by
  cases delega with
  | aggiungi utente => exact iff_of_false sensible (by simp [aggiunge])
  | rimuovi utente => exact iff_of_true sensible.1 rfl

theorem Fase.avanza {p : App Unit} {op : Op} {next : Reply firestore Thrown op → App Unit}
    {newId : String} {reply : Reply firestore Thrown op} (at' : Fase taskId delega store p)
    (head : p = .call op next) (answered : service.exec newId op store = some (reply, final)) :
    Fase taskId delega final (next reply) ∧ ∀ utente, final.assegnato taskId utente ↔
      (delega.user = utente ∧ diScrittura op = true ↔ ¬ store.assegnato taskId utente) := by
  cases at' with
  | legge listed nodup sensible =>
    cases head
    cases answered
    refine ⟨?_, fun utente => by simp [diScrittura]⟩
    obtain ⟨d, a, stored, decodes, rfl⟩ := listed
    have read : LeMieAttivita.fromFirestore taskId (store.get .todo taskId) = .ok a :=
      LeMieAttivita.fromFirestore_eq_ok.mpr ⟨d, stored, decodes⟩
    have point : Fase taskId delega store (cornice (scrivi taskId delega a.utenti)) :=
      .scrive ⟨d, a, stored, decodes, rfl⟩ nodup sensible
    rw [← valuta_sensata sensible, ← read] at point
    exact point
  | @scrive utenti listed nodup sensible =>
    obtain ⟨d, a, stored, decodes, rfl⟩ := id listed
    cases head
    simp only [service, exec, stored] at answered
    cases answered
    have written := elenco_put store decodes (delega.lista a.utenti)
    constructor
    · have ended : cornice (concludi taskId (delega.lista a.utenti) delega) = .done () := by
        rw [concludi_sensata taskId sensible]
        rfl
      change Fase taskId delega _ (cornice (concludi taskId (delega.lista a.utenti) delega))
      rw [ended]
      exact .fatta written (nodup_lista nodup sensible) (by rw [mem_lista_iff nodup, if_pos rfl])
    · intro utente
      rw [written.assegnato_iff, listed.assegnato_iff, mem_lista_iff nodup]
      by_cases same : utente = delega.user
      · subst same
        rw [if_pos rfl, sensible.mem_iff]
        simp [diScrittura]
      · rw [if_neg same]
        simp [Ne.symm same]
  | fatta => cases head

theorem Fase.not_raise {e : Thrown} (at' : Fase taskId delega store (.raise e)) : False := by
  cases delega <;> cases at'

theorem Fase.finita (at' : Fase taskId delega store (.done ())) :
    store.assegnato taskId delega.user ↔ aggiunge delega = true := by
  generalize ended : (.done () : App Unit) = p at at'
  cases at' with
  | legge => cases ended
  | scrive => cases ended
  | fatta listed _ shown => exact (listed.assegnato_iff _).trans shown

theorem runs_utenteAssegnato_iff {utente : String} {calls : List (Exchange firestore Thrown)}
    {isAssigned : Bool}
    (run : Runs service (LeMieAttivitaViewModel.utenteAssegnato utente taskId) store calls
      (.ok isAssigned) final) :
    final = store ∧ (isAssigned = true ↔ store.assegnato taskId utente) := by
  obtain ⟨choice, reply, mid, rest, answered, after, -⟩ := runs_call_iff.mp run
  cases answered
  cases stored : store.get .todo taskId with
  | none =>
    rw [stored] at after
    obtain ⟨-, same, rfl⟩ := runs_done_iff.mp after
    cases same
    refine ⟨rfl, iff_of_false Bool.false_ne_true ?_⟩
    rintro ⟨d, found, -⟩
    cases stored.symm.trans found
  | some d =>
    have here : store.assegnato taskId utente ↔ .string utente ∈ d.assegnatari := by
      constructor
      · rintro ⟨d', found, member⟩
        cases stored.symm.trans found
        exact member
      · exact fun member => ⟨d, stored, member⟩
    rw [here, Document.assegnatari]
    rw [stored] at after
    simp only [Process.ofExcept_ok, Process.bind_done] at after
    split at after
    · next items field =>
      obtain ⟨-, same, rfl⟩ := runs_done_iff.mp after
      cases same
      simp [field]
    · next other notArray field =>
      obtain ⟨-, same, rfl⟩ := runs_done_iff.mp after
      cases same
      refine ⟨rfl, iff_of_false Bool.false_ne_true ?_⟩
      rw [field]
      cases other with
      | array items => exact (notArray items rfl).elim
      | _ => simp [FieldWrite.elements]
    · next field =>
      obtain ⟨-, same, rfl⟩ := runs_done_iff.mp after
      cases same
      simp [field, FieldWrite.elements]

end

/-! ## Runs -/

/-- The task and the handler of a tap make sense, and the maps are about participants. Until the
check has set the map, the participants not assigned at the start are shown as they are, and what
has been read of a participant is so after an even number of writes; then all are shown as they
are. The one of a tap in progress is left out. -/
structure Allineato (taskId : String) (partecipanti utenti : List String)
    (c : List Evento × Delegatask) : Prop where
  libera : c.2.tocco = none → ∃ ora, Elenco taskId c.2.store ora ∧ ora.Nodup
  occupata : ∀ tocco, c.2.tocco = some tocco →
    tocco.delega.user ∈ partecipanti ∧ Fase taskId tocco.delega c.2.store tocco.resto
  mappa : ∀ utente ∉ partecipanti, c.2.assegnato utente = false
  finita : .assegna ∈ c.1 → c.2.controllo = .finito
  temp : ∀ restanti temp, c.2.controllo = .legge restanti temp → restanti ⊆ partecipanti ∧
    (∀ utente ∉ partecipanti, (temp utente).getD false = false) ∧
    ∀ utente ∈ partecipanti, utente ∉ restanti →
      ((temp utente).getD false = true ↔
        (Even (scritture utente c.1) ↔ c.2.store.assegnato taskId utente))
  mostra : ∀ utente ∈ partecipanti, (utente ∈ utenti → c.2.controllo = .finito) →
    (∀ tocco ∈ c.2.tocco, tocco.delega.user ≠ utente) →
    (c.2.assegnato utente = true ↔ c.2.store.assegnato taskId utente)

section
variable {taskId : String} {partecipanti utenti : List String} {c c' : List Evento × Delegatask}
  {s : Delegatask} {evento : Evento}

theorem turned_same {turns before after : Prop} :
    ((turns ↔ ¬ before) ↔ (turns ↔ ¬ after)) ↔ (before ↔ after) := by
  tauto

theorem not_turned {turns before : Prop} (still : ¬ turns) : (turns ↔ ¬ before) ↔ before :=
  (iff_false_left still).trans not_not

theorem even_scritture_avanza (utente toccato : String) (scritta : Bool) (prima : List Evento) :
    Even (scritture utente (.avanza toccato scritta :: prima)) ↔
      (toccato = utente ∧ scritta = true ↔ ¬ Even (scritture utente prima)) := by
  by_cases counted : toccato = utente ∧ scritta = true
  · rw [scritture, if_pos counted, Nat.even_add_one]
    exact (iff_true_left counted).symm
  · rw [scritture, if_neg counted]
    exact (not_turned counted).symm

theorem Allineato.sincera (holds : Allineato taskId partecipanti utenti c) :
    Sincera taskId partecipanti c.2 := by
  intro finished free utente
  by_cases member : utente ∈ partecipanti
  · rw [and_iff_right member]
    exact holds.mostra utente member (fun _ => finished) (by simp [free])
  · refine iff_of_false ?_ fun shown => member shown.1
    rw [holds.mappa utente member]
    exact Bool.false_ne_true

/-- What the check sets the map to is right of the users with an even number of writes since. -/
theorem Allineato.letto {temp : Mappa} {utente : String}
    (holds : Allineato taskId partecipanti utenti c) (reading : c.2.controllo = .legge [] temp)
    (member : utente ∈ partecipanti) :
    ((temp utente).getD false = true ↔ c.2.store.assegnato taskId utente) ↔
      Even (scritture utente c.1) := by
  have read := (holds.temp _ _ reading).2.2 utente member List.not_mem_nil
  tauto

@[simp] theorem user_delega (s : Delegatask) (utente : String) :
    (s.delega utente).user = utente := by
  unfold Delegatask.delega
  cases s.assegnato utente <;> rfl

theorem assegnato_imposta (s : Delegatask) (delega : Delega) (utente : String) :
    (s.imposta delega).assegnato utente =
      if utente = delega.user then aggiunge delega else s.assegnato utente := by
  by_cases same : utente = delega.user
  · subst same
    simp [Delegatask.imposta, Delegatask.assegnato]
  · simp [Delegatask.imposta, Delegatask.assegnato, same]

theorem sensata_delega {ora : List String} {utente : String}
    (listed : Elenco taskId s.store ora)
    (shown : s.assegnato utente = true ↔ s.store.assegnato taskId utente)
    (left : s.assegnato utente = true → ∃ altro, altro ≠ utente ∧ s.store.assegnato taskId altro) :
    Sensata ora (s.delega utente) := by
  rw [listed.assegnato_iff] at shown
  unfold Delegatask.delega
  cases assigned : s.assegnato utente with
  | false =>
    intro member
    cases assigned.symm.trans (shown.mpr member)
  | true =>
    obtain ⟨altro, other, still⟩ := left assigned
    rw [listed.assegnato_iff] at still
    exact ⟨shown.mp assigned, List.ne_nil_of_mem ((List.mem_erase_of_ne other).mpr still)⟩

theorem Allineato.step (holds : Allineato taskId partecipanti utenti c)
    (allowed : SenzaSorpassi partecipanti utenti c evento)
    (taken : Recorded (Passo taskId partecipanti) c evento c') :
    Allineato taskId partecipanti utenti c' := by
  obtain ⟨eventi, s⟩ := c
  obtain ⟨eventi', t⟩ := c'
  obtain ⟨moved, rfl⟩ : Passo taskId partecipanti s evento t ∧ eventi' = evento :: eventi := taken
  cases moved with
  | @controlla utente restanti temp calls isAssigned store reading run =>
    obtain ⟨rfl, answer⟩ := runs_utenteAssegnato_iff run
    obtain ⟨inside, known, read⟩ := holds.temp _ _ reading
    refine ⟨holds.libera, holds.occupata, holds.mappa, fun earlier => ?_, ?_, ?_⟩
    · cases reading.symm.trans (holds.finita (List.mem_of_ne_of_mem (by rintro ⟨⟩) earlier))
    · rintro _ _ ⟨⟩
      refine ⟨fun u member => inside (List.mem_cons_of_mem _ member), fun u outside => ?_,
        fun u member last => ?_⟩
      · have other : u ≠ utente := fun same => outside (same ▸ inside List.mem_cons_self)
        rw [Function.update_of_ne other]
        exact known u outside
      · by_cases same : u = utente
        · subst same
          simpa [scritture] using answer
        · rw [Function.update_of_ne same, scritture, if_neg (Ne.symm same)]
          exact read u member (List.not_mem_cons_of_ne_of_not_mem same last)
    · intro u member later free
      refine holds.mostra u member (fun assigned => ?_) free
      cases later assigned
  | @assegna temp reading =>
    refine ⟨holds.libera, holds.occupata, (holds.temp _ _ reading).2.1, fun _ => rfl,
      by rintro _ _ ⟨⟩, fun u member _ free => ?_⟩
    exact (holds.letto reading member).mpr (allowed u member free)
  | @tocca utente free member left =>
    obtain ⟨ora, listed, nodup⟩ := holds.libera free
    have shown := holds.mostra utente member (fun assigned => holds.finita (allowed assigned))
      (by simp [free])
    refine ⟨by rintro ⟨⟩, ?_, holds.mappa,
      fun earlier => holds.finita (List.mem_of_ne_of_mem (by rintro ⟨⟩) earlier),
      holds.temp, fun u inside later _ => ?_⟩
    · rintro _ ⟨⟩
      rw [user_delega, chiama_eq]
      exact ⟨member, .legge listed nodup (sensata_delega listed shown left)⟩
    · exact holds.mostra u inside later (by simp [free])
  | @avanza tocco op next _ reply store pending head answered =>
    obtain ⟨inside, at'⟩ := holds.occupata tocco pending
    obtain ⟨moved, turned⟩ := at'.avanza head answered
    refine ⟨by rintro ⟨⟩, ?_, holds.mappa,
      fun earlier => holds.finita (List.mem_of_ne_of_mem (by rintro ⟨⟩) earlier),
      fun restanti temp reading => ?_, fun u member later different => ?_⟩
    · rintro _ ⟨⟩
      exact ⟨inside, moved⟩
    · obtain ⟨within, known, read⟩ := holds.temp restanti temp reading
      refine ⟨within, known, fun u member last => ?_⟩
      have count := even_scritture_avanza u tocco.delega.user (diScrittura op) eventi
      exact (read u member last).trans (turned_same.symm.trans (iff_congr count (turned u)).symm)
    · have apart := different _ rfl
      have same : store.assegnato taskId u ↔ s.store.assegnato taskId u :=
        (turned u).trans (not_turned fun turns => apart turns.1)
      rw [same]
      refine holds.mostra u member later fun before same => ?_
      cases pending.symm.trans same
      exact apart
  | @conclude tocco pending ended =>
    obtain ⟨inside, at'⟩ := holds.occupata tocco pending
    rw [ended] at at'
    refine ⟨fun _ => at'.elenco, by rintro _ ⟨⟩, fun u outside => ?_,
      fun earlier => holds.finita (List.mem_of_ne_of_mem (by rintro ⟨⟩) earlier), holds.temp,
      fun u member later _ => ?_⟩
    · have other : u ≠ tocco.delega.user := fun same => outside (same ▸ inside)
      rw [assegnato_imposta, if_neg other]
      exact holds.mappa u outside
    · rw [assegnato_imposta]
      by_cases same : u = tocco.delega.user
      · subst same
        rw [if_pos rfl]
        exact at'.finita.symm
      · rw [if_neg same]
        refine holds.mostra u member later fun before same' => ?_
        cases pending.symm.trans same'
        exact Ne.symm same
  | fallisce pending raised =>
    obtain ⟨-, at'⟩ := holds.occupata _ pending
    rw [raised] at at'
    exact at'.not_raise.elim

end

/-- As long as the taps and the check do not overtake each other, the screen shows at rest who is
assigned. Where no tap is in progress at the end of the check, it shows that just when every
participant has been written an even number of times since the check read him. -/
theorem delegation_screen_never_lies {taskId : String} {partecipanti utenti : List String}
    {store : Store} {eventi : List Evento} {s : Delegatask} (listed : Elenco taskId store utenti)
    (nodup : utenti.Nodup)
    (run : GuardedRun (Recorded (Passo taskId partecipanti)) (SenzaSorpassi partecipanti utenti)
      ([], .initState partecipanti store) (eventi, s)) :
    Sincera taskId partecipanti s ∧ ∀ t, s.tocco = none → Passo taskId partecipanti s .assegna t →
      (Sincera taskId partecipanti t ↔
        SenzaSorpassi partecipanti utenti (eventi, s) .assegna) := by
  have holds : Allineato taskId partecipanti utenti (eventi, s) := by
    refine run.invariant _ (fun before allowed taken => before.step allowed taken) ?_
    refine ⟨fun _ => ⟨utenti, listed, nodup⟩, by rintro _ ⟨⟩, fun _ _ => rfl, by rintro ⟨⟩, ?_,
      fun u _ later _ => ?_⟩
    · rintro _ _ ⟨⟩
      exact ⟨List.Subset.refl _, fun _ _ => rfl, fun u member last => (last member).elim⟩
    · refine iff_of_false Bool.false_ne_true fun assigned => ?_
      cases later ((listed.assegnato_iff u).mp assigned)
  refine ⟨holds.sincera, fun t free taken => ⟨fun after => ?_, fun allowed => ?_⟩⟩
  · cases taken with
    | assegna reading =>
      intro u member _
      exact (holds.letto reading member).mp ((after rfl free u).trans (and_iff_right member))
  · have ended : Recorded (Passo taskId partecipanti) (eventi, s) .assegna
        (.assegna :: eventi, t) := ⟨taken, rfl⟩
    exact (holds.step allowed ended).sincera

/-! ## Bruno is added by Anna -/

def partecipanti : List String := ["anna", "bruno"]

theorem elenco_storeDiAnna : Elenco "t" storeDiAnna ["anna"] :=
  ⟨_, attivitaDiAnna, rfl, attivitaDiAnna_decodes, rfl⟩

def letta : Mappa :=
  Function.update (Function.update (fun _ => none) "anna" (some true)) "bruno" (some false)

def eventiLetti : List Evento := [.controlla "bruno", .controlla "anna"]

theorem run_controllata (guard : List Evento × Delegatask → Evento → Prop)
    (goesOn : ∀ c utente, guard c (.controlla utente)) :
    GuardedRun (Recorded (Passo "t" partecipanti)) guard ([], .initState partecipanti storeDiAnna)
      (eventiLetti, ⟨fun _ => none, .legge [] letta, none, storeDiAnna⟩) := by
  have anna : Passo "t" partecipanti (.initState partecipanti storeDiAnna) (.controlla "anna")
      ⟨fun _ => none, .legge ["bruno"] (Function.update (fun _ => none) "anna" (some true)), none,
        storeDiAnna⟩ := .controlla rfl (.of_runAlone [""] rfl)
  have bruno : Passo "t" partecipanti
      ⟨fun _ => none, .legge ["bruno"] (Function.update (fun _ => none) "anna" (some true)), none,
        storeDiAnna⟩ (.controlla "bruno") ⟨fun _ => none, .legge [] letta, none, storeDiAnna⟩ :=
    .controlla rfl (.of_runAlone [""] rfl)
  have first := GuardedRun.record .refl anna (goesOn ([], .initState partecipanti storeDiAnna) _)
  exact first.record bruno (goesOn _ _)

def conBruno : Store :=
  storeDiAnna.put .todo "t"
    (attivitaDiAnna.toMap.writes [("utenti", .value (.strings ["anna", "bruno"]))])

def eventiDelTocco : List Evento := [.avanza "bruno" true, .avanza "bruno" false, .tocca "bruno"]

theorem tocca_bruno {guard : List Evento × Delegatask → Evento → Prop}
    {start : List Evento × Delegatask} {eventi : List Evento} {userAssigned : Mappa}
    {controllo : Controllo}
    (before : GuardedRun (Recorded (Passo "t" partecipanti)) guard start
      (eventi, ⟨userAssigned, controllo, none, storeDiAnna⟩))
    (shown : (userAssigned "bruno").getD false = false)
    (permitted : guard (eventi, ⟨userAssigned, controllo, none, storeDiAnna⟩) (.tocca "bruno"))
    (goesOn : ∀ c scritta, guard c (.avanza "bruno" scritta)) :
    GuardedRun (Recorded (Passo "t" partecipanti)) guard start (eventiDelTocco ++ eventi,
      ⟨userAssigned, controllo, some ⟨.aggiungi "bruno", .done ()⟩, conBruno⟩) := by
  have pressed : Passo "t" partecipanti ⟨userAssigned, controllo, none, storeDiAnna⟩
      (.tocca "bruno") ⟨userAssigned, controllo,
        some ⟨.aggiungi "bruno", chiama "t" (.aggiungi "bruno")⟩, storeDiAnna⟩ := by
    have step : Passo "t" partecipanti ⟨userAssigned, controllo, none, storeDiAnna⟩ _ _ :=
      .tocca rfl (by decide : "bruno" ∈ partecipanti) fun assigned => by
        cases shown.symm.trans assigned
    have adds : (⟨userAssigned, controllo, none, storeDiAnna⟩ : Delegatask).delega "bruno" =
        .aggiungi "bruno" := by
      simp [Delegatask.delega, Delegatask.assegnato, shown]
    rw [Delegatask.premi, adds] at step
    exact step
  have asked := before.record pressed permitted
  have read := asked.record (.avanza "" rfl rfl rfl) (goesOn _ _)
  have written := read.record (.avanza "" rfl rfl rfl) (goesOn _ _)
  exact written

theorem elenco_conBruno : Elenco "t" conBruno ["anna", "bruno"] :=
  elenco_put storeDiAnna attivitaDiAnna_decodes ["anna", "bruno"]

theorem delegation_screen_never_lies_bruno : ∃ s : Delegatask,
    s.controllo = .finito ∧ s.tocco = none ∧ s.store = conBruno ∧ s.assegnato "bruno" = true ∧
    Sincera "t" partecipanti s := by
  have checked : SenzaSorpassi partecipanti ["anna"]
      (eventiLetti, ⟨fun _ => none, .legge [] letta, none, storeDiAnna⟩) .assegna := by
    intro utente member _
    rcases List.mem_pair.mp member with rfl | rfl <;> decide
  have read := run_controllata (SenzaSorpassi partecipanti ["anna"]) fun _ _ => trivial
  have ready := read.record (.assegna rfl) checked
  have added := tocca_bruno ready rfl (fun _ => List.mem_cons_self) fun _ _ => trivial
  have ended := added.record (.conclude rfl rfl) trivial
  exact ⟨_, rfl, rfl, rfl, rfl,
    (delegation_screen_never_lies elenco_storeDiAnna (by decide) ended).1⟩

/-- Bruno is added after the check has read him and before it ends. -/
theorem check_hides_assignment : ∃ c : List Evento × Delegatask,
    GuardedRun (Recorded (Passo "t" partecipanti)) (fun _ _ => True)
      ([], .initState partecipanti storeDiAnna) c ∧
    c.2.controllo = .finito ∧ c.2.tocco = none ∧ c.2.store.assegnato "t" "bruno" ∧
    c.2.assegnato "bruno" = false ∧ ¬ Sincera "t" partecipanti c.2 := by
  have read := run_controllata (fun _ _ => True) fun _ _ => trivial
  have added := tocca_bruno read rfl trivial fun _ _ => trivial
  have ended := (added.record (.conclude rfl rfl) trivial).record (.assegna rfl) trivial
  have stored : conBruno.assegnato "t" "bruno" := (elenco_conBruno.assegnato_iff _).mpr (by decide)
  refine ⟨_, ended, rfl, rfl, stored, rfl, fun sincere => ?_⟩
  have shown := (sincere rfl rfl "bruno").mpr ⟨by decide, stored⟩
  cases shown

end TeamSync.Screens.DelegaTask
