import TeamSync.Model.ProfiloUtente
import TeamSync.Tasks.Runs

/-! The profiles of other users, read by their identifiers. -/

set_option autoImplicit false

namespace TeamSync

open Effects

namespace RepositoryUtente

def fetchUserProfileFromRepository (userId : String) : App (Option ProfiloUtente) := do
  try
    let doc ← get .utenti userId
    match doc with
    | some data => .ofExcept ((ProfiloUtente.fromFirestore userId data).map some)
    | none => pure none
  catch _ => pure none

def getUserProfile (userId : String) : App (Option ProfiloUtente) := do
  -- an error is thrown again
  let document ← get .utenti userId
  match document with
  | some data => .ofExcept ((ProfiloUtente.fromFirestore userId data).map some)
  | none => pure none

end RepositoryUtente

namespace ViewModelUtente

def ottieniUtente (userId : String) : App (Option ProfiloUtente) := do
  try
    RepositoryUtente.fetchUserProfileFromRepository userId
  catch _ => pure none

end ViewModelUtente

namespace ProgettoViewModel

/-- The loop of `getPartecipantiByIds`: a user without a profile is left out. -/
def getPartecipantiByIds : List String → App (List ProfiloUtente)
  | [] => pure []
  | userId :: userIds => do
    let utente ← RepositoryUtente.getUserProfile userId
    let utenti ← getPartecipantiByIds userIds
    pure (utente.toList ++ utenti)

end ProgettoViewModel

theorem quiet_profilo (userId : String) (found : Option Document) :
    Quiet (match found with
      | some data => .ofExcept ((ProfiloUtente.fromFirestore userId data).map some)
      | none => .done none : App (Option ProfiloUtente)) := by
  cases found with
  | none => trivial
  | some data => exact .ofExcept _

theorem quiet_ottieniUtente (userId : String) : Quiet (ViewModelUtente.ottieniUtente userId) :=
  .rescue (.rescue (.bind (.perform rfl) (quiet_profilo userId))
    fun _ => trivial) fun _ => trivial

theorem quiet_getPartecipantiByIds (userIds : List String) :
    Quiet (ProgettoViewModel.getPartecipantiByIds userIds) := by
  induction userIds with
  | nil => trivial
  | cons userId userIds ih =>
    exact .bind (.bind (.perform rfl) (quiet_profilo userId)) fun _ =>
      .bind ih fun _ => trivial

end TeamSync
