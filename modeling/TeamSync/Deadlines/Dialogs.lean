import TeamSync.Deadlines.Calls
import TeamSync.Projects.Format
import TeamSync.Tasks.Edit
import TeamSync.View.CreaProgettoDialog

/-! Dialogs and pages over time.

Projects and tasks are stored by the saves of dialogs, which stay open while the clock goes
on. Pages keep what they have read, and dialogs are opened on that.
-/

set_option autoImplicit false

namespace TeamSync.Deadlines.Dialogs

open Effects Projects Tasks

inductive Dialogo where
  | crea (dialog : CreaProgettoDialog)
  | pagina (page : ModificaProgetto)
  | aggiungi (idProgetto : String) (dialog : AddTodoDialog)
  | modifica (dialog : EditTodoDialog)

def Dialogo.richieste (zone : Zone) (oggi : DateTime) : Dialogo → List Richiesta
  | .crea dialog => (dialog.richiesta zone oggi).toList
  | .pagina page => (page.richiestaScadenza zone oggi).toList ++
      (page.richiestaConsegna zone oggi).toList
  | .aggiungi _ dialog => dialog.richiesta.toList
  | .modifica dialog => (dialog.richiesta oggi).toList

structure Stato where
  store : Store
  ora : Int
  letti : List (String × Progetto)
  elencate : List LeMieAttivita
  aperti : List Dialogo

def Stato.adesso (s : Stato) : DateTime := ⟨s.ora, false⟩

def Stato.inizio (ora : Int) : Stato := ⟨.empty, ora, [], [], []⟩

/-- What can be opened, on a project and a task as they have been read. The dialog of a new task
has read the clock twice before. The list of a page may hold tasks of other projects. -/
inductive Apre (s : Stato) : Dialogo → Prop where
  | crea : Apre s (.crea (.apri s.adesso))
  | pagina {id : String} {p : Progetto} {vm : ProgettoViewModel} {dataMinima : DateTime} :
      (id, p) ∈ s.letti →
      Apre s (.pagina ((ModificaProgetto.initState id vm dataMinima).loadProgetto (some p)))
  | aggiungi {id : String} {p : Progetto} {oggi₁ oggi₂ : DateTime} : (id, p) ∈ s.letti →
      oggi₁.isUtc = false → oggi₂.isUtc = false → oggi₁.micros ≤ oggi₂.micros →
      oggi₂.micros ≤ s.ora →
      Apre s (.aggiungi id (.apri p.dataScadenza oggi₁ oggi₂ s.adesso))
  | modifica {a : LeMieAttivita} {id : String} {p : Progetto} : a ∈ s.elencate →
      (id, p) ∈ s.letti → Apre s (.modifica (.apri a p.dataScadenza s.adesso))

/-- What the user does to an open dialog when the clock reads `oggi`. -/
inductive Tocca (zone : Zone) (oggi : DateTime) : Dialogo → Dialogo → Prop where
  | crea {dialog dialog' : CreaProgettoDialog} : CreaProgettoDialog.Tocca zone oggi dialog dialog' →
      Tocca zone oggi (.crea dialog) (.crea dialog')
  | pagina {page page' : ModificaProgetto} : ModificaProgetto.Tocca zone page page' →
      Tocca zone oggi (.pagina page) (.pagina page')
  | aggiungi {idProgetto : String} {dialog dialog' : AddTodoDialog} :
      AddTodoDialog.Tocca zone dialog dialog' →
      Tocca zone oggi (.aggiungi idProgetto dialog) (.aggiungi idProgetto dialog')
  | modifica {dialog dialog' : EditTodoDialog} : EditTodoDialog.Tocca zone oggi dialog dialog' →
      Tocca zone oggi (.modifica dialog) (.modifica dialog')

def Entro2101 (zone : Zone) : Dialogo → Prop
  | .crea dialog => dialog.dataScadenza.day zone ≤ (ultimaData zone).day zone
  | _ => True

/-- The call of a save, with what it reads besides its dialog. The dialog of a new project
joins one instead when a code has been typed. -/
inductive Salva (adesso : DateTime) : Dialogo → PageCall → Prop where
  | crea {dialog : CreaProgettoDialog} {vm : ProgettoViewModel}
      {progettoId uuid currentUserId : String} : dialog.codiceProgetto = "" → dialog.nome ≠ "" →
      Salva adesso (.crea dialog) (.addProgetto vm adesso progettoId uuid dialog.nome
        dialog.descrizione dialog.dataScadenza dialog.priorita [currentUserId])
  | pagina {page : ModificaProgetto} : Salva adesso (.pagina page) (.modificaProgetto page)
  | aggiungi {idProgetto : String} {dialog : AddTodoDialog} {oggi now now' : DateTime}
      {utenteCorrente : Option String} : Salva adesso (.aggiungi idProgetto dialog)
        (.aggiungiTask dialog oggi now now' utenteCorrente idProgetto)
  | modifica {dialog : EditTodoDialog} {oggi now now' : DateTime} :
      Salva adesso (.modifica dialog) (.modificaTask dialog oggi now now')

inductive Altra where
  | membro (call : MembershipCall)
  | completa (id : String) (completato : Bool)
  | elimina (id : String)
  | delega (id : String) (call : Delega)

def Altra.process : Altra → App Unit
  | .membro call => (fun _ => ()) <$> call.process
  | .completa id completato =>
    (fun _ => ()) <$> LeMieAttivitaViewModel.completeTodo id completato
  | .elimina id => (fun _ => ()) <$> LeMieAttivitaViewModel.deleteTodo id
  | .delega id call => call.process id

inductive Evento where
  | passa (ora : Int)
  | leggi (id : String)
  | elenca (id : String)
  | apri (dialogo : Dialogo)
  | tocca (i : Nat) (dialogo : Dialogo)
  | chiudi (i : Nat)
  | salva (i : Nat)
  | altra (call : Altra)

/-- One event. A call runs to its end, and the dialog that makes it may stay open. -/
inductive Passo (zone : Zone) (s : Stato) : Evento → Stato → Prop where
  | passa {ora : Int} : s.ora ≤ ora → Passo zone s (.passa ora) { s with ora := ora }
  | leggi {id : String} {p : Progetto} {calls : List (Exchange firestore Thrown)}
      {final : Store} :
      Runs network (ProgettoViewModel.getProgettoById id) s.store calls (.ok (some p)) final →
      Passo zone s (.leggi id) { s with store := final, letti := (id, p) :: s.letti }
  | elenca {id : String} {items : List LeMieAttivita} {calls : List (Exchange firestore Thrown)}
      {final : Store} :
      Runs network (TodoRepository.getAttivitaByProgettoId id) s.store calls (.ok items) final →
      Passo zone s (.elenca id) { s with store := final, elencate := items ++ s.elencate }
  | apri {dialogo : Dialogo} : Apre s dialogo → Entro2101 zone dialogo →
      Passo zone s (.apri dialogo) { s with aperti := dialogo :: s.aperti }
  | tocca {i : Nat} {prima dopo : Dialogo} : s.aperti[i]? = some prima →
      Tocca zone s.adesso prima dopo → Entro2101 zone dopo →
      Passo zone s (.tocca i dopo) { s with aperti := s.aperti.set i dopo }
  | chiudi {i : Nat} : Passo zone s (.chiudi i) { s with aperti := s.aperti.eraseIdx i }
  | salva {i : Nat} {dialogo : Dialogo} {call : PageCall}
      {calls : List (Exchange firestore Thrown)} {out : Except Thrown Unit} {final : Store} :
      s.aperti[i]? = some dialogo → Salva s.adesso dialogo call →
      Runs network (call.process zone) s.store calls out final →
      Passo zone s (.salva i) { s with store := final }
  | altra {call : Altra} {calls : List (Exchange firestore Thrown)} {out : Except Thrown Unit}
      {final : Store} : Runs network call.process s.store calls out final →
      Passo zone s (.altra call) { s with store := final }

/-! ## What is known of projects -/

structure DateDelProgetto (d : Document) (p : Progetto) : Prop where
  descrizione : Value.asStringOrNull (d "descrizione") = .ok p.descrizione
  dataCreazione : ∃ t, Value.asTimestamp (d "dataCreazione") = .ok t ∧ p.dataCreazione = t.toDate
  dataScadenza : ∃ t, Value.asTimestamp (d "dataScadenza") = .ok t ∧ p.dataScadenza = t.toDate
  dataConsegna : ∃ t, Value.asTimestamp (d "dataConsegna") = .ok t ∧ p.dataConsegna = t.toDate

def Noto (s : Stato) (id : String) (p : Progetto) : Prop :=
  (∃ d, s.store.get .progetti id = some d ∧ DateDelProgetto d p) ∨ (id, p) ∈ s.letti

/-! ## What calls write -/

section
variable {d d' : Document} {p q : Progetto}

theorem DateDelProgetto.of_decodes {id : String} (decodes : Progetto.Decodes id d p) :
    DateDelProgetto d p :=
  ⟨decodes.descrizione, decodes.dataCreazione, decodes.dataScadenza, decodes.dataConsegna⟩

theorem date_unique {field : Option Value} {x y : DateTime}
    (first : ∃ t, Value.asTimestamp field = .ok t ∧ x = t.toDate)
    (second : ∃ t, Value.asTimestamp field = .ok t ∧ y = t.toDate) : x = y := by
  obtain ⟨t, read, rfl⟩ := first
  obtain ⟨u, read', rfl⟩ := second
  cases read.symm.trans read'
  rfl

theorem date_isLocal {field : Option Value} {x : DateTime}
    (read : ∃ t, Value.asTimestamp field = .ok t ∧ x = t.toDate) : x.isUtc = false := by
  obtain ⟨t, -, rfl⟩ := read
  rfl

theorem DateDelProgetto.same (first : DateDelProgetto d p) (second : DateDelProgetto d q) :
    p.descrizione = q.descrizione ∧ p.dataCreazione = q.dataCreazione ∧
      p.dataScadenza = q.dataScadenza ∧ p.dataConsegna = q.dataConsegna :=
  ⟨Except.ok.inj (first.descrizione.symm.trans second.descrizione),
    date_unique first.dataCreazione second.dataCreazione,
    date_unique first.dataScadenza second.dataScadenza,
    date_unique first.dataConsegna second.dataConsegna⟩

end

section
variable {s : Stato} {key id : String} {d : Document} {p : Progetto}

theorem noto_putProgetto (known : Noto { s with store := s.store.put .progetti key d } id p) :
    id = key ∧ DateDelProgetto d p ∨ Noto s id p := by
  rcases known with ⟨d', found, dates⟩ | read
  · rw [Store.get_put] at found
    split at found
    · next same =>
      cases found
      exact .inl ⟨same.2, dates⟩
    · exact .inr (.inl ⟨d', found, dates⟩)
  · exact .inr (.inr read)

end

def campiDelleDate : List String :=
  ["descrizione", "dataCreazione", "dataScadenza", "dataConsegna"]

/-- No project is new, and no date of one has changed. -/
structure Conserva (s final : Store) : Prop where
  used : ∀ id, s.Used .progetti id → final.Used .progetti id
  stored : ∀ id d', final.get .progetti id = some d' →
    ∃ d, s.get .progetti id = some d ∧ ∀ name ∈ campiDelleDate, d' name = d name

section
variable {s mid final : Store} {c : CollectionName} {id : String} {d d' : Document}

theorem Conserva.refl (s : Store) : Conserva s s :=
  ⟨fun _ used => used, fun _ d found => ⟨d, found, fun _ _ => rfl⟩⟩

theorem Conserva.trans (first : Conserva s mid) (second : Conserva mid final) :
    Conserva s final where
  used id used := second.used id (first.used id used)
  stored id d₂ found := by
    obtain ⟨d₁, found₁, same₁⟩ := second.stored id d₂ found
    obtain ⟨d, found, same⟩ := first.stored id d₁ found₁
    exact ⟨d, found, fun name field => (same₁ name field).trans (same name field)⟩

theorem Conserva.erase (s : Store) (c : CollectionName) (id : String) :
    Conserva s (s.erase c id) where
  used _ used := used.erase
  stored key d found := by
    rw [Store.get_erase] at found
    split at found
    · cases found
    · exact ⟨d, found, fun _ _ => rfl⟩

theorem Conserva.putTodo (s : Store) (key : String) (d : Document) :
    Conserva s (s.put .todo key d) where
  used _ used := used.put
  stored id d' found := by
    rw [Store.get_put_other (by decide)] at found
    exact ⟨d', found, fun _ _ => rfl⟩

theorem Conserva.put {name : String} {write : FieldWrite} (found : s.get c id = some d)
    (other : name ∉ campiDelleDate) : Conserva s (s.put c id (d.writes [(name, write)])) where
  used _ used := used.put
  stored key d' stored := by
    rw [Store.get_put] at stored
    split at stored
    · next same =>
      obtain ⟨rfl, rfl⟩ := same
      cases stored
      refine ⟨d, found, fun field listed => Document.writes_of_notMem ?_ d⟩
      rintro (_ | ⟨_, ⟨⟩⟩)
      exact other listed
    · exact ⟨d', stored, fun _ _ => rfl⟩

/-- A project that a page reads is stored so. -/
theorem stored_of_read {id : String} {p : Progetto} {calls : List (Exchange firestore Thrown)}
    (run : Runs network (ProgettoViewModel.getProgettoById id) s calls (.ok (some p)) final) :
    final = s ∧ ∃ d, s.get .progetti id = some d ∧ Progetto.Decodes id d p := by
  rcases runs_rescue_iff.mp run with ⟨found, ran, same⟩ | ⟨e, first, rest, mid, -, after, -⟩
  · cases same
    exact runs_getProgettoById ran
  · cases (runs_done_iff.mp after).2.1

theorem conserva_altra {call : Altra} {calls : List (Exchange firestore Thrown)}
    {out : Except Thrown Unit} (run : Runs network call.process s calls out final) :
    Conserva s final := by
  cases call with
  | membro call =>
    obtain ⟨_, ran⟩ := run.of_map
    cases call with
    | unisciti user codice =>
      rcases runs_unisciti ran with rfl | ⟨id, d, found, rfl⟩
      · exact .refl _
      · exact .put found (by decide)
    | abbandona user id =>
      rcases runs_abbandona ran with rfl | ⟨u, d, -, found, -, rfl | ⟨-, -, rfl⟩⟩
      · exact .refl _
      · exact .put found (by decide)
      · exact .trans (.put found (by decide)) (.erase _ _ _)
  | completa id completato =>
    obtain ⟨_, ran⟩ := run.of_map
    rcases runs_viewModel_completeTodo ran with rfl | ⟨d, found, rfl⟩
    · exact .refl _
    · exact .put found (by decide)
  | elimina id =>
    obtain ⟨_, ran⟩ := run.of_map
    rcases runs_viewModel_deleteTodo ran with rfl | rfl
    · exact .refl _
    · exact .erase _ _ _
  | delega id call =>
    rcases runs_delega run with ⟨-, rfl⟩ | ⟨d, a, found, -, rfl | rfl⟩
    · exact .refl _
    · exact .put found (by decide)
    · exact .trans (.put found (by decide)) (.erase _ _ _)

end

end TeamSync.Deadlines.Dialogs
