import Mathlib.Logic.Relation
import TeamSync.Session.Login

/-! The session, the flag of a successful login and the current profile, over runs. -/

set_option autoImplicit false

namespace TeamSync.Session

open Effects

inductive Evento where
  | login (guasti : Guasti) (email password : String)
  | logout (guasti : Guasti)
  | fetchUserProfile (guasti : Guasti) (userId : String)
  | altrove (accounts : Collection String Account) (cloud : Store)

def Evento.esegui : Evento → Sistema → Sistema
  | .login guasti email password, s => ((ViewModelUtente.login guasti email password).exec s).2
  | .logout guasti, s => ((ViewModelUtente.logout guasti).exec s).2
  | .fetchUserProfile guasti userId, s =>
    ((ViewModelUtente.fetchUserProfile guasti userId).exec s).2
  | .altrove accounts cloud, s => { s with auth.accounts := accounts, cloud := cloud }

def PrimoAccessoIlleggibile (guasto : Option Thrown) (s : Sistema) (uid : String) : Prop :=
  guasto ≠ none ∨ ∃ e, RepositoryUtente.primoAccessoDi (s.cloud.get .utenti uid) = .error e

section
variable {s : Sistema} {uid : String} {guasto : Option Thrown}

theorem illeggibile_iff : PrimoAccessoIlleggibile guasto s uid ↔
    ∃ e, primoAccessoLetto guasto s uid = .error e := by
  cases guasto with
  | some e => exact iff_of_true (.inl (by simp)) ⟨e, rfl⟩
  | none => simp [PrimoAccessoIlleggibile, primoAccessoLetto]

end

/-! ## Runs -/

def Passo (allowed : Sistema → Evento → Prop) (s final : Sistema) : Prop :=
  ∃ evento, allowed s evento ∧ final = evento.esegui s

def profiloDiAnna : Document := .ofFields [
  ("nome", .string "Anna"),
  ("cognome", .string "Rossi"),
  ("matricola", .string "100"),
  ("dataDiNascita", .timestamp ⟨0⟩),
  ("sesso", .string "DONNA"),
  ("email", .string "anna@a.it"),
  ("primoAccesso", .bool true),
  ("immagine", .null),
  ("amici", .array [])]

def inizio : Sistema where
  auth :=
    ⟨.semplice, (Collection.empty.put "a" ⟨"anna@a.it", "segreto", true⟩).put "b"
      ⟨"bruno@a.it", "parola", false⟩, none⟩
  cloud := Store.empty.put .utenti "a" profiloDiAnna
  viewModel := .nuovo

end TeamSync.Session
