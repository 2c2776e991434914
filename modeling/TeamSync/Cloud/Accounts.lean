import TeamSync.Cloud.FirebaseAuth

/-! New accounts, and the mails that the server sends.

The state is that of the session with the mails and the fields of the view model
that registration and password reset change; an action on the session is one on
the part of the state it knows.
-/

set_option autoImplicit false

namespace TeamSync

open Effects

structure Moduli where
  registrazioneRiuscita : Bool
  erroreRegistrazione : Option String
  resetPasswordRiuscito : Bool
  erroreResetPassword : Option String
  deriving DecidableEq, Repr

structure SistemaConPosta extends Sistema where
  moduli : Moduli
  -- newest first
  posta : List Mail

abbrev AzioneConPosta := Action Eccezione SistemaConPosta

def suSistema {A : Type} (x : Azione A) : AzioneConPosta A :=
  Action.within SistemaConPosta.toSistema
    (fun s sistema => { s with toSistema := sistema }) .altra x

def tenta (guasto : Option Eccezione) : AzioneConPosta Unit :=
  match guasto with
  | some e => throw e
  | none => pure ()

def statoConPosta : AzioneConPosta SistemaConPosta := getThe SistemaConPosta

@[simp] theorem exec_statoConPosta (s : SistemaConPosta) : statoConPosta.exec s = (.ok s, s) := rfl

@[simp] theorem exec_tenta_none (s : SistemaConPosta) : (tenta none).exec s = (.ok (), s) := rfl

namespace FirebaseAuth

def createUserWithEmailAndPassword (guasto : Option Eccezione) (uid email password : String) :
    AzioneConPosta (Option User) := do
  -- `uid` is the identifier of the new account. The user is signed in
  tenta guasto
  let s ← statoConPosta
  match s.auth.servizio.rifiuta s.auth.accounts email password with
  | some e => throw e
  | none =>
    let user := User.mk uid false
    modify fun s => { s with
      auth.accounts := s.auth.accounts.put uid ⟨email, password, false⟩
      auth.currentUser := some user }
    pure (some user)

def sendEmailVerification (guasto : Option Eccezione) (user : User) : AzioneConPosta Unit := do
  tenta guasto
  modify fun s => { s with posta := .verifica user.uid :: s.posta }

def sendPasswordResetEmail (guasto : Option Eccezione) (email : String) : AzioneConPosta Unit := do
  tenta guasto
  let s ← statoConPosta
  match s.auth.servizio.resetPassword s.auth.accounts email with
  | .ok spedite => modify fun s => { s with posta := spedite ++ s.posta }
  | .error e => throw e

end FirebaseAuth

def setDoc (guasto : Option Eccezione) (c : CollectionName) (id : String) (data : Document) :
    AzioneConPosta Unit := do
  tenta guasto
  modify fun s => { s with cloud := s.cloud.put c id data }

/-! ## What is documented of the service -/

namespace ServizioAuth

def InUso (servizio : ServizioAuth) (accounts : Collection String Account) (email : String) :
    Prop :=
  ∃ uid account, accounts.get uid = some account ∧
    servizio.normale account.email = servizio.normale email

def Distinti (servizio : ServizioAuth) (accounts : Collection String Account) : Prop :=
  ∀ uid uid' account account', accounts.get uid = some account → accounts.get uid' = some account' →
    servizio.normale account.email = servizio.normale account'.email → uid = uid'

/-- The service signs in with an address and the password of its account and nothing else, and
makes no second account for an address. -/
structure PerCredenziali (servizio : ServizioAuth) : Prop where
  riconosce : ∀ accounts, servizio.Distinti accounts → ∀ email password uid,
    servizio.riconosce accounts email password = some uid ↔ ∃ account,
      accounts.get uid = some account ∧ servizio.normale account.email = servizio.normale email ∧
        account.password = password
  rifiuta : ∀ accounts email password, servizio.InUso accounts email →
    servizio.rifiuta accounts email password ≠ none

def trova (accounts : Collection String Account) (p : Account → Bool) : Option String :=
  (accounts.select p).head?.map Prod.fst

def semplice : ServizioAuth where
  normale := id
  riconosce accounts email password :=
    trova accounts fun account => account.email = email && account.password = password
  rifiuta accounts email password :=
    if (trova accounts fun account => account.email = email).isSome then
      some (.firebaseAuth "email-already-in-use" none)
    else if password.length < 6 then some (.firebaseAuth "weak-password" none)
    else none
  resetPassword accounts email :=
    if (trova accounts fun account => account.email = email).isSome then
      .ok [.resetPassword email]
    else .error (.firebaseAuth "user-not-found" none)

end ServizioAuth

end TeamSync
