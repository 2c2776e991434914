import TeamSync.Dart.RegExp
import TeamSync.Repository.RepositoryUtente

/-! The view model of the users: its fields are part of the state its actions change. -/

set_option autoImplicit false

namespace TeamSync

structure Guasti where
  signIn : Option Thrown
  reload : Option Thrown
  profilo : Option Thrown
  primoAccesso : Option Thrown
  signOut : Option Thrown
  deriving DecidableEq, Repr

def Guasti.nessuno : Guasti := ⟨none, none, none, none, none⟩

namespace ViewModelUtente

def nuovo : ViewModelUtente where
  utenteCorrente := none
  loginSuccessful := false
  firstLogin := false
  erroreLogin := none

/-- `^[^@]+@[^@]+\.[^@]+` -/
def formatoEmail : RegExp :=
  [.many (· ≠ '@'), .one (· = '@'), .many (· ≠ '@'), .one (· = '.'), .many (· ≠ '@')]

def setErroreLogin (messaggio : String) : Azione Unit :=
  modify fun s => { s with viewModel.erroreLogin := some messaggio }

def setUtenteCorrente (profilo : Option ProfiloUtente) : Azione Unit :=
  modify fun s => { s with viewModel.utenteCorrente := profilo }

def fetchUserProfile (guasti : Guasti) (userId : String) : Azione Unit := do
  try
    let profilo ← RepositoryUtente.fetchUserProfile guasti.profilo userId
    setUtenteCorrente profilo
  catch _ => setUtenteCorrente none

def emailNonVerificata : String :=
  "L'email non è stata verificata. Per favore, verifica il tuo indirizzo email."

def credenzialiErrate : String := "Email o password errate. Controlla le tue credenziali e riprova."

def verifica (guasti : Guasti) (user : User) : Azione Unit := do
  if ← RepositoryUtente.isEmailVerified guasti.reload then
    fetchUserProfile guasti user.uid
    let firstLogin ← RepositoryUtente.isFirstLogin guasti.primoAccesso user.uid
    modify fun s => { s with
      viewModel.firstLogin := firstLogin
      viewModel.loginSuccessful := true
      viewModel.erroreLogin := none }
  else
    -- `loginSuccessful` keeps its value
    setErroreLogin emailNonVerificata

def accedi (guasti : Guasti) (email password : String) : Azione Unit := do
  let user ← RepositoryUtente.login guasti.signIn email password
  match user with
  | some user => verifica guasti user
  | none => setErroreLogin emailNonVerificata

def login (guasti : Guasti) (email password : String) : Azione Unit :=
  if email.isEmpty then
    setErroreLogin "Per favore, inserisci l'indirizzo email."
  else if ¬ formatoEmail.hasMatch email then
    setErroreLogin "L'indirizzo email inserito non è valido."
  else if password.isEmpty then
    setErroreLogin "Per favore, inserisci la password."
  else do
    try
      accedi guasti email password
    catch _ => setErroreLogin credenzialiErrate

def logout (guasti : Guasti) : Azione Unit := RepositoryUtente.logout guasti.signOut

def updateFirstLogin (guasto : Option Thrown) : Azione Unit := do
  let s ← stato
  match s.viewModel.utenteCorrente with
  | some utenteCorrente => RepositoryUtente.updateFirstLogin guasto utenteCorrente.id
  | none => pure ()

/-! ## Registration and reset of the password -/

structure DatiRegistrazione where
  matricola : String
  nome : String
  cognome : String
  email : String
  dataNascita : DateTime
  sesso : SessoUtente
  password : String
  confermaPassword : String
  deriving DecidableEq, Repr

structure GuastiRegistrazione where
  creazione : Option Eccezione
  profilo : Option Eccezione
  posta : Option Eccezione
  deriving DecidableEq, Repr

def validateRegistrationField (dati : DatiRegistrazione) : Option String :=
  if dati.matricola.isEmpty then some "Per favore, inserisci il numero di matricola."
  else if dati.email.isEmpty then some "Per favore, inserisci il tuo indirizzo email."
  else if ¬ formatoEmail.hasMatch dati.email then
    some "L'indirizzo email inserito non è valido."
  else if dati.nome.isEmpty then some "Per favore, inserisci il tuo nome."
  else if dati.cognome.isEmpty then some "Per favore, inserisci il tuo cognome."
  else if dati.password.isEmpty then some "Per favore, inserisci la password."
  else if dati.confermaPassword.isEmpty then some "Per favore, conferma la password inserita."
  else if dati.password ≠ dati.confermaPassword then some "Le password non coincidono."
  else none

/-- Nothing when nobody is signed in, or when the address is verified already. -/
def sendEmailVerification (guasto : Option Eccezione) : AzioneConPosta Unit := do
  let s ← statoConPosta
  match s.auth.currentUser with
  | some user =>
    if user.emailVerified then pure () else FirebaseAuth.sendEmailVerification guasto user
  | none => pure ()

def erroreDi : Eccezione → String
  | .firebaseAuth "email-already-in-use" _ => "L'email è già in uso."
  | .firebaseAuth "invalid-email" _ => "L'email non è valida."
  | .firebaseAuth "operation-not-allowed" _ => "Operazione non permessa."
  | .firebaseAuth "weak-password" _ => "La password è troppo debole."
  | .firebaseAuth _ message => "Errore: " ++ message.getD "null"
  | .altra _ => "Registrazione fallita. Riprovare."

def registra (guasti : GuastiRegistrazione) (uid : String) (dati : DatiRegistrazione) :
    AzioneConPosta Unit := do
  discard (RepositoryUtente.signUp guasti.creazione guasti.profilo uid dati.matricola dati.nome
    dati.cognome dati.dataNascita dati.sesso.toShortString dati.email dati.password)
  -- started without `await`
  (sendEmailVerification guasti.posta).detached
  modify fun s => { s with
    moduli.erroreRegistrazione := none
    moduli.registrazioneRiuscita := true }

def signUp (guasti : GuastiRegistrazione) (uid : String) (dati : DatiRegistrazione) :
    AzioneConPosta Unit := do
  modify fun s => { s with moduli.erroreRegistrazione := none }
  match validateRegistrationField dati with
  | some errore =>
    -- `registrazioneRiuscita` keeps its value
    modify fun s => { s with moduli.erroreRegistrazione := some errore }
  | none =>
    try
      registra guasti uid dati
    catch e =>
      modify fun s => { s with
        moduli.erroreRegistrazione := some (erroreDi e)
        moduli.registrazioneRiuscita := false }

def alfanumerico (c : Char) : Bool := c.isAlpha || c.isDigit

/-- ``^[a-zA-Z0-9.a-zA-Z0-9!#$%&'*+/=?^_`{|}~-]+@[a-zA-Z0-9]+\.[a-zA-Z]+`` -/
def formatoEmailReset : RegExp :=
  [.many fun c => alfanumerico c || c ∈ ".!#$%&'*+/=?^_`\x7b|\x7d~-".toList,
    .one (· = '@'), .many alfanumerico, .one (· = '.'), .many Char.isAlpha]

def resetPassword (guasto : Option Eccezione) (email : String) : AzioneConPosta Unit :=
  if email.isEmpty then
    -- `resetPasswordRiuscito` keeps its value
    modify fun s => { s with
      moduli.erroreResetPassword := some "Per favore, inserisci l'indirizzo email." }
  else if ¬ formatoEmailReset.hasMatch email then
    modify fun s => { s with
      moduli.resetPasswordRiuscito := false
      moduli.erroreResetPassword := some "L'indirizzo email inserito non è valido." }
  else do
    try
      RepositoryUtente.resetPassword guasto email
      modify fun s => { s with
        moduli.resetPasswordRiuscito := true
        moduli.erroreResetPassword := none }
    catch _ =>
      modify fun s => { s with
        moduli.resetPasswordRiuscito := false
        moduli.erroreResetPassword := some "Reset della password fallito. Riprova." }

end ViewModelUtente

end TeamSync
