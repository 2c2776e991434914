import TeamSync.Cloud.Accounts

/-! The repository of the users. A handler that only throws again is left out. -/

set_option autoImplicit false

namespace TeamSync.RepositoryUtente

def login (guasto : Option Thrown) (email password : String) : Azione (Option User) :=
  FirebaseAuth.signInWithEmailAndPassword guasto email password

def fetchUserProfile (guasto : Option Thrown) (userId : String) :
    Azione (Option ProfiloUtente) := do
  try
    let doc ← getDoc guasto .utenti userId
    match doc with
    | some data =>
      match ProfiloUtente.fromFirestore userId data with
      | .ok profilo => pure (some profilo)
      | .error e => throw e
    | none => pure none
  catch _ => pure none

/-- `profiloUtente?['primoAccesso'] ?? true` -/
def primoAccessoDi : Option Document → Except Thrown Bool
  | some data => Value.asBool true (data "primoAccesso")
  | none => .ok true

def isFirstLogin (guasto : Option Thrown) (userId : String) : Azione Bool := do
  let document ← getDoc guasto .utenti userId
  match primoAccessoDi document with
  | .ok primoAccesso => pure primoAccesso
  | .error e => throw e

def updateFirstLogin (guasto : Option Thrown) (userId : String) : Azione Unit :=
  updateDoc guasto .utenti userId [("primoAccesso", .value (.bool false))]

def isEmailVerified (guasto : Option Thrown) : Azione Bool := do
  let s ← stato
  match s.auth.currentUser with
  | some utenteAttuale =>
    FirebaseAuth.reload guasto utenteAttuale
    pure utenteAttuale.emailVerified
  | none => pure false

def logout (guasto : Option Thrown) : Azione Unit := FirebaseAuth.signOut guasto

/-- The map literal of `signUp`. A `DateTime` in it is stored to the millisecond. -/
def profiloUtente (uid matricola nome cognome : String) (dataNascita : DateTime)
    (sesso email : String) : Document := .ofFields [
  ("id", .string uid),
  ("nome", .string nome),
  ("cognome", .string cognome),
  ("matricola", .string matricola),
  ("dataDiNascita", .timestamp (.fromMillisecondsSinceEpoch dataNascita.millisecondsSinceEpoch)),
  ("sesso", .string sesso),
  ("email", .string email),
  ("primoAccesso", .bool true),
  ("immagine", .null),
  ("amici", .array [])]

def signUp (creazione profilo : Option Eccezione) (uid matricola nome cognome : String)
    (dataNascita : DateTime) (sesso email password : String) : AzioneConPosta (Option User) := do
  -- `uid` is the identifier that a new account gets
  let utente ← FirebaseAuth.createUserWithEmailAndPassword creazione uid email password
  match utente with
  | some utente =>
    setDoc profilo .utenti utente.uid
      (profiloUtente utente.uid matricola nome cognome dataNascita sesso email)
    pure (some utente)
  | none => pure none

def resetPassword (guasto : Option Eccezione) (email : String) : AzioneConPosta Unit :=
  FirebaseAuth.sendPasswordResetEmail guasto email

end TeamSync.RepositoryUtente
