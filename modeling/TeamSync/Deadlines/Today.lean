import TeamSync.ViewModel.LeMieAttivitaViewModel

/-! The refusal of past due dates, and the user's calendar day. -/

set_option autoImplicit false

namespace TeamSync.Deadlines

open LeMieAttivitaViewModel

def giornoUtc (d : DateTime) : Int := d.micros / microsPerDay

def Rifiutata (p : App (Option String)) : Prop := ∃ message, p = .done (some message)

/-- The call refuses no date of today, and every date of yesterday. -/
def RiconosceOggi (zone : Zone) (oggi : DateTime) (call : DateTime → App (Option String)) : Prop :=
  (∀ date, Timestamp.giorno zone date = Timestamp.giorno zone oggi → ¬ Rifiutata (call date)) ∧
    ∀ date, Timestamp.giorno zone date = Timestamp.giorno zone oggi - 1 → Rifiutata (call date)

section
variable {zone : Zone} {oggi date : DateTime}

theorem isBefore_ofDay_iff (zone : Zone) (date : DateTime) (n : Int) :
    date.isBefore (.ofDay zone n) = true ↔ Timestamp.giorno zone date < n := by
  have local' : Timestamp.giorno zone date =
      (date.micros + zone * microsPerMinute) / microsPerDay := rfl
  rw [local', Int.ediv_lt_iff_lt_mul (by decide), DateTime.isBefore, decide_eq_true_iff,
    DateTime.ofDay]
  constructor <;> intro before <;> dsimp only at * <;> omega

theorem isDateBeforeToday_iff :
    isDateBeforeToday zone oggi date = true ↔ Timestamp.giorno zone date < giornoUtc oggi :=
  isBefore_ofDay_iff zone date _

theorem giorno_near (west : -720 ≤ zone) (east : zone ≤ 840) (d : DateTime) :
    giornoUtc d - 1 ≤ Timestamp.giorno zone d ∧ Timestamp.giorno zone d ≤ giornoUtc d + 1 := by
  have local' : Timestamp.giorno zone d =
      (d.micros + zone * microsPerMinute) / microsPerDay := rfl
  have minutes : (-720 : Int) ≤ zone ∧ (840 : Int) ≥ zone := ⟨west, east⟩
  rw [local', giornoUtc, microsPerMinute, microsPerDay]
  omega

theorem giorno_ofDay (zone : Zone) (n : Int) : Timestamp.giorno zone (.ofDay zone n) = n := by
  rw [Timestamp.giorno_of_local zone rfl, DateTime.day_ofDay]

theorem rifiutata_addTodo_iff {now : DateTime} {titolo descrizione : String} {completato : Bool}
    {proprietario progetto : String} {priorita : Priorita} (titled : titolo.isEmpty = false) :
    Rifiutata (addTodo zone oggi now titolo descrizione date completato proprietario progetto
      priorita) ↔ isDateBeforeToday zone oggi date = true := by
  unfold addTodo
  rw [titled]
  constructor
  · rintro ⟨message, same⟩
    by_contra allowed
    rw [if_neg Bool.false_ne_true, if_neg allowed] at same
    cases same
  · intro before
    rw [if_neg Bool.false_ne_true, if_pos before]
    exact ⟨_, rfl⟩

theorem rifiutata_updateTodo_iff {now : DateTime} {id titolo descrizione : String}
    {dataCreazione : DateTime} {progetto : String} {utenti : List String} {completato : Bool}
    {priorita : Priorita} (titled : titolo.isEmpty = false) :
    Rifiutata (updateTodo zone oggi now id titolo descrizione date dataCreazione progetto utenti
      completato priorita) ↔ isDateBeforeToday zone oggi date = true := by
  unfold updateTodo
  rw [titled]
  constructor
  · rintro ⟨message, same⟩
    by_contra allowed
    rw [if_neg Bool.false_ne_true, if_neg allowed] at same
    cases same
  · intro before
    rw [if_neg Bool.false_ne_true, if_pos before]
    exact ⟨_, rfl⟩

theorem riconosceOggi_iff {call : DateTime → App (Option String)}
    (refused : ∀ date, Rifiutata (call date) ↔ isDateBeforeToday zone oggi date = true) :
    RiconosceOggi zone oggi call ↔ giornoUtc oggi = Timestamp.giorno zone oggi := by
  simp only [RiconosceOggi, refused, isDateBeforeToday_iff]
  constructor
  · rintro ⟨today, yesterday⟩
    have late := today _ (giorno_ofDay zone (Timestamp.giorno zone oggi))
    have early := yesterday _ (giorno_ofDay zone (Timestamp.giorno zone oggi - 1))
    rw [giorno_ofDay] at late early
    omega
  · intro same
    refine ⟨fun date today => ?_, fun date yesterday => ?_⟩ <;> omega

end

/-- The check is about the user's day just for the dates that are not on the earlier
one of the UTC day and the user's own, while these differ; so the calls that make
it recognize today just when the two are the same. -/
theorem due_date_check_iff {zone : Zone} (west : -720 ≤ zone) (east : zone ≤ 840)
    (oggi : DateTime) :
    (∀ date,
      (isDateBeforeToday zone oggi date = true ↔
        Timestamp.giorno zone date < Timestamp.giorno zone oggi) ↔
      (giornoUtc oggi = Timestamp.giorno zone oggi ∨
        Timestamp.giorno zone date ≠ min (giornoUtc oggi) (Timestamp.giorno zone oggi))) ∧
    (∀ now titolo descrizione completato proprietario progetto priorita, titolo.isEmpty = false →
      (RiconosceOggi zone oggi (fun date => addTodo zone oggi now titolo descrizione date completato
          proprietario progetto priorita) ↔
        giornoUtc oggi = Timestamp.giorno zone oggi)) ∧
    ∀ now id titolo descrizione dataCreazione progetto utenti completato priorita,
      titolo.isEmpty = false →
      (RiconosceOggi zone oggi (fun date => updateTodo zone oggi now id titolo descrizione date
          dataCreazione progetto utenti completato priorita) ↔
        giornoUtc oggi = Timestamp.giorno zone oggi) := by
  refine ⟨fun date => ?_, ?_, ?_⟩
  · have near := giorno_near west east oggi
    rw [isDateBeforeToday_iff]
    omega
  · intro now titolo descrizione completato proprietario progetto priorita titled
    exact riconosceOggi_iff fun date => rifiutata_addTodo_iff titled
  · intro now id titolo descrizione dataCreazione progetto utenti completato priorita titled
    exact riconosceOggi_iff fun date => rifiutata_updateTodo_iff titled

theorem due_date_check_iff_noon :
    isDateBeforeToday 60 ⟨11 * 3600000000, false⟩ ⟨-3600000001, false⟩ = true ↔
      Timestamp.giorno 60 ⟨-3600000001, false⟩ < Timestamp.giorno 60 ⟨11 * 3600000000, false⟩ :=
  ((due_date_check_iff (by decide) (by decide) ⟨11 * 3600000000, false⟩).1 _).mpr (.inl (by decide))

/-- An hour east of UTC, half an hour after midnight: a date of yesterday is not refused.
An hour west of it, half an hour before midnight: a date of today is refused. -/
theorem midnight_is_not_recognized :
    (Timestamp.giorno 60 ⟨-1800000000, false⟩ = 0 ∧ Timestamp.giorno 60 ⟨-7200000000, false⟩ = -1 ∧
      isDateBeforeToday 60 ⟨-1800000000, false⟩ ⟨-7200000000, false⟩ = false) ∧
    Timestamp.giorno (-60) ⟨1800000000, false⟩ = -1 ∧
      Timestamp.giorno (-60) ⟨0, false⟩ = -1 ∧
      isDateBeforeToday (-60) ⟨1800000000, false⟩ ⟨0, false⟩ = true := by
  decide

end TeamSync.Deadlines
