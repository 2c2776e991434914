/-! Instants and local calendar days, for a device with a fixed zone.

A calendar day is its number of days since 1970-01-01, which determines year,
month and day and is determined by them.
-/

set_option autoImplicit false

namespace TeamSync

/-- Minutes east of UTC. -/
abbrev Zone := Int

def microsPerMinute : Int := 60000000

def microsPerDay : Int := 86400000000

structure DateTime where
  micros : Int
  isUtc : Bool
  deriving DecidableEq, Repr

namespace DateTime

def isBefore (a b : DateTime) : Bool := a.micros < b.micros

def isAfter (a b : DateTime) : Bool := b.micros < a.micros

/-- The division truncates. -/
def millisecondsSinceEpoch (d : DateTime) : Int := d.micros.tdiv 1000

/-- `add(Duration(days: days))` -/
def addDays (d : DateTime) (days : Int) : DateTime :=
  { d with micros := d.micros + days * microsPerDay }

def toUtc (d : DateTime) : DateTime := { d with isUtc := true }

def day (zone : Zone) (d : DateTime) : Int :=
  (if d.isUtc then d.micros else d.micros + zone * microsPerMinute) / microsPerDay

def ofDay (zone : Zone) (day : Int) : DateTime :=
  -- `DateTime(year, month, day)`
  ⟨day * microsPerDay - zone * microsPerMinute, false⟩

def startOfDay (zone : Zone) (d : DateTime) : DateTime := ofDay zone (d.day zone)

@[simp] theorem day_ofDay (zone : Zone) (n : Int) : (ofDay zone n).day zone = n := by
  simp only [day, ofDay, microsPerDay, microsPerMinute]
  simp

theorem eq_of_micros {a b : DateTime} (aLocal : a.isUtc = false) (bLocal : b.isUtc = false)
    (same : a.micros = b.micros) : a = b := by
  cases a
  cases b
  cases aLocal
  cases bLocal
  cases same
  rfl

theorem day_mono (zone : Zone) {a b : DateTime} (sameKind : a.isUtc = b.isUtc)
    (le : a.micros ≤ b.micros) : a.day zone ≤ b.day zone := by
  have shifted : (if a.isUtc then a.micros else a.micros + zone * microsPerMinute) ≤
      if b.isUtc then b.micros else b.micros + zone * microsPerMinute := by
    rw [sameKind]
    split <;> omega
  exact Int.ediv_le_ediv (by decide) shifted

end DateTime

structure Timestamp where
  micros : Int
  deriving DecidableEq, Repr

namespace Timestamp

def fromDate (d : DateTime) : Timestamp := ⟨d.micros⟩

def fromMillisecondsSinceEpoch (milliseconds : Int) : Timestamp := ⟨milliseconds * 1000⟩

def toDate (t : Timestamp) : DateTime := ⟨t.micros, false⟩

def giorno (zone : Zone) (d : DateTime) : Int := (fromDate d).toDate.day zone

@[simp] theorem millisecondsSinceEpoch_toDate (milliseconds : Int) :
    (fromMillisecondsSinceEpoch milliseconds).toDate.millisecondsSinceEpoch = milliseconds :=
  Int.mul_tdiv_cancel milliseconds (by decide)

theorem toDate_fromDate {d : DateTime} (isLocal : d.isUtc = false) : (fromDate d).toDate = d := by
  cases d
  cases isLocal
  rfl

theorem giorno_of_local (zone : Zone) {d : DateTime} (isLocal : d.isUtc = false) :
    giorno zone d = d.day zone := by
  rw [giorno, toDate_fromDate isLocal]

end Timestamp

end TeamSync
