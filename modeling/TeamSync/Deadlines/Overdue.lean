import TeamSync.Deadlines.Today
import TeamSync.ViewModel.ProgettoViewModel

/-! What counts as late: for the row of a task, for the card of a project, and
when a task is edited. -/

set_option autoImplicit false

namespace TeamSync

inductive Colors where
  | red | black
  deriving DecidableEq, Repr

/-- The colour of the deadline in the row of a task, at this reading of the clock. -/
def TodoItem.coloreScadenza (item : LeMieAttivita) (now : DateTime) : Colors :=
  if item.dataScadenza.isBefore now then .red else .black

def ITuoiProgettiItem.progettoScaduto (progetto : Progetto) (now : DateTime) : Bool :=
  now.isAfter progetto.dataScadenza

namespace Deadlines

open Effects LeMieAttivitaViewModel

/-! ## On the screen -/

/-- Both are marked, or neither, as the day of the deadline is before today or not. -/
structure SegnatiComeScaduti (zone : Zone) (oggi : DateTime) (item : LeMieAttivita)
    (progetto : Progetto) : Prop where
  nonPrima : Timestamp.giorno zone oggi ≤ Timestamp.giorno zone item.dataScadenza →
    TodoItem.coloreScadenza item oggi ≠ .red ∧
      ITuoiProgettiItem.progettoScaduto progetto oggi = false
  prima : Timestamp.giorno zone item.dataScadenza < Timestamp.giorno zone oggi →
    TodoItem.coloreScadenza item oggi = .red ∧
      ITuoiProgettiItem.progettoScaduto progetto oggi = true

section
variable {zone : Zone} {oggi date : DateTime} {item : LeMieAttivita} {progetto : Progetto}

theorem coloreScadenza_red_iff :
    TodoItem.coloreScadenza item oggi = .red ↔ item.dataScadenza.micros < oggi.micros := by
  rw [TodoItem.coloreScadenza, DateTime.isBefore]
  split <;> simp_all

theorem progettoScaduto_iff : ITuoiProgettiItem.progettoScaduto progetto oggi = true ↔
    progetto.dataScadenza.micros < oggi.micros :=
  decide_eq_true_iff

theorem micros_lt_of_giorno_lt (before : Timestamp.giorno zone date < Timestamp.giorno zone oggi) :
    date.micros < oggi.micros := by
  by_contra later
  have ordered : Timestamp.giorno zone oggi ≤ Timestamp.giorno zone date :=
    DateTime.day_mono zone rfl (not_lt.mp later)
  omega

end

/-- A task and a project with the same deadline are marked from the day after it on,
just when the clock has not passed the deadline on its own day. -/
theorem overdue_marks_iff (zone : Zone) (oggi : DateTime) (item : LeMieAttivita)
    (progetto : Progetto) :
    SegnatiComeScaduti zone oggi item { progetto with dataScadenza := item.dataScadenza } ↔
      (Timestamp.giorno zone item.dataScadenza = Timestamp.giorno zone oggi →
        oggi.micros ≤ item.dataScadenza.micros) := by
  constructor
  · rintro ⟨unmarked, -⟩ today
    obtain ⟨black, -⟩ := unmarked today.ge
    exact not_lt.mp (mt coloreScadenza_red_iff.mpr black)
  · intro reached
    constructor
    · intro notBefore
      have later : oggi.micros ≤ item.dataScadenza.micros := by
        rcases notBefore.eq_or_lt with same | after
        · exact reached same.symm
        · exact (micros_lt_of_giorno_lt after).le
      exact ⟨mt coloreScadenza_red_iff.mp (not_lt.mpr later),
        Bool.eq_false_iff.mpr (mt progettoScaduto_iff.mp (not_lt.mpr later))⟩
    · intro before
      have earlier := micros_lt_of_giorno_lt before
      exact ⟨coloreScadenza_red_iff.mpr earlier, progettoScaduto_iff.mpr earlier⟩

/-! ### A deadline of today -/

def consegnaOggi : LeMieAttivita :=
  .new ⟨0, false⟩ none "Consegna" "" (.ofDay 0 0) .alta false "p" ["anna"] none none

def progettoDiOggi : Progetto :=
  ProgettoViewModel.nuovoProgetto ⟨0, false⟩ "p" "1a2b3c4d-0000" "Tesi" "" (.ofDay 0 0) .alta
    ["anna"]

/-- At noon the view model takes the date that the picker gives for today, and both are red. -/
theorem due_today_is_marked :
    ¬ Rifiutata (addTodo 0 ⟨microsPerDay / 2, false⟩ ⟨microsPerDay / 2, false⟩ "Consegna" ""
      (.ofDay 0 0) false "anna" "p" .alta) ∧
    TodoItem.coloreScadenza consegnaOggi ⟨microsPerDay / 2, false⟩ = .red ∧
    ITuoiProgettiItem.progettoScaduto progettoDiOggi ⟨microsPerDay / 2, false⟩ = true ∧
    ¬ SegnatiComeScaduti 0 ⟨microsPerDay / 2, false⟩ consegnaOggi progettoDiOggi := by
  have red : TodoItem.coloreScadenza consegnaOggi ⟨microsPerDay / 2, false⟩ = .red := by decide
  refine ⟨?_, red, by decide, fun marked => (marked.nonPrima (by decide)).1 red⟩
  rw [rifiutata_addTodo_iff (by decide)]
  decide

/-! ## At an edit -/

/-- The edit answers with no message, and leads to this store, just when the title is not
empty and the day of the deadline is not before the day of the task's creation. Otherwise
it answers with one, and leaves the store as it is. -/
structure ModificaFondata (zone : Zone) (call : App (Option String)) (titolo : String)
    (dataScadenza dataCreazione : DateTime) (s salvato : Store) : Prop where
  riuscita_iff : Yields service call s (.ok none) salvato ↔ titolo.isEmpty = false ∧
    Timestamp.giorno zone dataCreazione ≤ Timestamp.giorno zone dataScadenza
  altrimenti : ¬ (titolo.isEmpty = false ∧
      Timestamp.giorno zone dataCreazione ≤ Timestamp.giorno zone dataScadenza) →
    ∃ message, Yields service call s (.ok (some message)) s

section
variable {zone : Zone} {oggi now dataScadenza dataCreazione : DateTime}
    {id titolo descrizione progetto : String} {utenti : List String} {completato : Bool}
    {priorita : Priorita}

theorem yields_updateTodo (s : Store) (titled : titolo.isEmpty = false)
    (allowed : isDateBeforeToday zone oggi dataScadenza = false) :
    Yields service (updateTodo zone oggi now id titolo descrizione dataScadenza dataCreazione
      progetto utenti completato priorita) s (.ok none)
      (s.put .todo id (LeMieAttivita.new now (some id) titolo descrizione dataScadenza priorita
        completato progetto utenti none (some dataCreazione)).toMap) := by
  unfold updateTodo
  rw [titled, allowed, if_neg Bool.false_ne_true, if_neg Bool.false_ne_true]
  have written : Yields service (TodoRepository.updateTodo now id titolo descrizione dataScadenza
      dataCreazione priorita progetto utenti completato) s (.ok ()) _ :=
    .rescue (yields_perform fun _ => rfl)
  exact .rescue (written.bind (.done none _))

theorem rifiutata_updateTodo_of_empty (untitled : titolo.isEmpty = true) :
    Rifiutata (updateTodo zone oggi now id titolo descrizione dataScadenza dataCreazione progetto
      utenti completato priorita) := by
  unfold updateTodo
  rw [if_pos untitled]
  exact ⟨_, rfl⟩

theorem Rifiutata.yields {call : App (Option String)} (refused : Rifiutata call) (s : Store) :
    ∃ message, Yields service call s (.ok (some message)) s := by
  obtain ⟨message, rfl⟩ := refused
  exact ⟨message, .done _ s⟩

theorem Rifiutata.not_yields {call : App (Option String)} (refused : Rifiutata call)
    {s final : Store} : ¬ Yields service call s (.ok none) final := by
  obtain ⟨message, rfl⟩ := refused
  intro yields
  obtain ⟨calls, run⟩ := yields.ends
  cases (runs_done_iff.mp run).2.1

theorem modificaFondata_iff {call : App (Option String)} {s salvato : Store} {refused : Prop}
    (titled : titolo.isEmpty = false) (rejects : refused → Rifiutata call)
    (saves : ¬ refused → Yields service call s (.ok none) salvato) :
    ModificaFondata zone call titolo dataScadenza dataCreazione s salvato ↔
      (refused ↔ Timestamp.giorno zone dataScadenza < Timestamp.giorno zone dataCreazione) := by
  have saved : Yields service call s (.ok none) salvato ↔ ¬ refused :=
    ⟨fun yields reason => (rejects reason).not_yields yields, saves⟩
  constructor
  · rintro ⟨succeeds, -⟩
    rw [saved, and_iff_right titled, ← not_lt] at succeeds
    exact not_iff_not.mp succeeds
  · intro reasons
    have fine : ¬ refused ↔ titolo.isEmpty = false ∧
        Timestamp.giorno zone dataCreazione ≤ Timestamp.giorno zone dataScadenza := by
      rw [and_iff_right titled, ← not_lt, reasons]
    refine ⟨saved.trans fine, fun failed => (rejects ?_).yields s⟩
    exact not_not.mp (mt fine.mp failed)

end

/-- An edit is refused for its reasons just when the title is empty, or the deadline is before
neither or both of the UTC day of the clock and the day of the creation. -/
theorem edit_refused_iff (zone : Zone) (oggi now : DateTime) (id titolo descrizione : String)
    (dataScadenza dataCreazione : DateTime) (progetto : String) (utenti : List String)
    (completato : Bool) (priorita : Priorita) (s : Store) :
    ModificaFondata zone (updateTodo zone oggi now id titolo descrizione dataScadenza dataCreazione
        progetto utenti completato priorita) titolo dataScadenza dataCreazione s
        (s.put .todo id (LeMieAttivita.new now (some id) titolo descrizione dataScadenza priorita
          completato progetto utenti none (some dataCreazione)).toMap) ↔
      titolo.isEmpty = true ∨
        (Timestamp.giorno zone dataScadenza < giornoUtc oggi ↔
          Timestamp.giorno zone dataScadenza < Timestamp.giorno zone dataCreazione) := by
  cases titled : titolo.isEmpty with
  | true =>
    refine iff_of_true ⟨iff_of_false ?_ ?_, fun _ => ?_⟩ (.inl rfl)
    · exact (rifiutata_updateTodo_of_empty titled).not_yields
    · rintro ⟨named, -⟩
      cases titled.symm.trans named
    · exact (rifiutata_updateTodo_of_empty titled).yields s
  | false =>
    rw [modificaFondata_iff titled (rifiutata_updateTodo_iff titled).mpr
      fun allowed => yields_updateTodo s titled (Bool.eq_false_iff.mpr allowed),
      isDateBeforeToday_iff]
    simp

/-- A task due on the day of its creation. Five days later its title is corrected, and the
edit is refused. -/
theorem overdue_task_is_not_editable :
    (∃ message, Yields service (updateTodo 0 (.ofDay 0 5) (.ofDay 0 5) "t" "Consegna finale" ""
      (.ofDay 0 0) (.ofDay 0 0) "p" ["anna"] false .alta)
      (Store.empty.put .todo "t" consegnaOggi.toMap) (.ok (some message))
      (Store.empty.put .todo "t" consegnaOggi.toMap)) ∧
    Timestamp.giorno 0 (.ofDay 0 0) ≤ Timestamp.giorno 0 (.ofDay 0 0) ∧
    ∀ salvato, ¬ ModificaFondata 0 (updateTodo 0 (.ofDay 0 5) (.ofDay 0 5) "t" "Consegna finale" ""
      (.ofDay 0 0) (.ofDay 0 0) "p" ["anna"] false .alta) "Consegna finale" (.ofDay 0 0)
      (.ofDay 0 0) (Store.empty.put .todo "t" consegnaOggi.toMap) salvato := by
  have refused : Rifiutata (updateTodo 0 (.ofDay 0 5) (.ofDay 0 5) "t" "Consegna finale" ""
      (.ofDay 0 0) (.ofDay 0 0) "p" ["anna"] false .alta) :=
    (rifiutata_updateTodo_iff (by decide)).mpr (by decide)
  exact ⟨refused.yields _, by decide, fun salvato fair =>
    refused.not_yields (fair.riuscita_iff.mpr (by decide))⟩

end Deadlines

end TeamSync
