import TeamSync.Dart.DateTime

/-! The date picker of the platform: what it requires and what it can answer. -/

set_option autoImplicit false

namespace TeamSync

structure Richiesta where
  initialDate : DateTime
  firstDate : DateTime
  lastDate : DateTime
  deriving DecidableEq, Repr

/-- What `showDatePicker` requires of them, as calendar days. -/
structure Richiesta.Conforme (zone : Zone) (richiesta : Richiesta) : Prop where
  ordinate : richiesta.firstDate.day zone ≤ richiesta.lastDate.day zone
  dopoLaPrima : richiesta.firstDate.day zone ≤ richiesta.initialDate.day zone
  entroLUltima : richiesta.initialDate.day zone ≤ richiesta.lastDate.day zone

def ultimaData (zone : Zone) : DateTime := .ofDay zone 47847

/-- The picker answers with the local midnight of a day from the first day to the last. -/
def Offers (zone : Zone) (firstDate lastDate picked : DateTime) : Prop :=
  ∃ n, firstDate.day zone ≤ n ∧ n ≤ lastDate.day zone ∧ picked = .ofDay zone n

theorem Offers.giorno_le {zone : Zone} {firstDate lastDate picked : DateTime}
    (offered : Offers zone firstDate lastDate picked) :
    Timestamp.giorno zone picked ≤ lastDate.day zone := by
  obtain ⟨n, -, below, rfl⟩ := offered
  rw [Timestamp.giorno_of_local zone rfl, DateTime.day_ofDay]
  exact below

end TeamSync
