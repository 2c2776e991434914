import TeamSync.Cloud.Service
import TeamSync.Library.Action
import TeamSync.Model.ProfiloUtente

/-! The accounts and the session of this device, with the rest of the state that
the actions on them change.

Whom the service behind the package recognises, which accounts it refuses and what it
answers to a reset is not known here: `ServizioAuth` is any such service. What the package
itself does with the answers, the current user and the `User` values handed out, is as
documented. A remote call may also fail for a reason of its own, given with the call, and
then changes nothing.
-/

set_option autoImplicit false

namespace TeamSync

open Effects

structure Account where
  email : String
  password : String
  emailVerified : Bool
  deriving DecidableEq, Repr

structure User where
  uid : String
  emailVerified : Bool
  deriving DecidableEq, Repr

inductive Mail where
  | verifica (uid : String)
  | resetPassword (email : String)
  deriving DecidableEq, Repr

inductive Eccezione where
  | firebaseAuth (code : String) (message : Option String)
  | altra (e : Thrown)
  deriving DecidableEq, Repr

/-- What the service decides, from the accounts that it has. -/
structure ServizioAuth where
  -- the form in which it compares addresses
  normale : String → String
  -- whom an address and a password sign in
  riconosce : Collection String Account → String → String → Option String
  -- why it refuses a new account of this address and password
  rifiuta : Collection String Account → String → String → Option Eccezione
  -- the mails it sends to reset the password of an address, or its error
  resetPassword : Collection String Account → String → Except Eccezione (List Mail)

structure FirebaseAuth where
  servizio : ServizioAuth
  accounts : Collection String Account
  currentUser : Option User

structure ViewModelUtente where
  utenteCorrente : Option ProfiloUtente
  loginSuccessful : Bool
  firstLogin : Bool
  erroreLogin : Option String
  deriving DecidableEq, Repr

structure Sistema where
  auth : FirebaseAuth
  cloud : Store
  viewModel : ViewModelUtente

abbrev Azione := Action Thrown Sistema

def stato : Azione Sistema := getThe Sistema

def chiama (guasto : Option Thrown) : Azione Unit :=
  match guasto with
  | some e => throw e
  | none => pure ()

@[simp] theorem exec_stato (s : Sistema) : stato.exec s = (.ok s, s) := rfl

@[simp] theorem exec_chiama_none (s : Sistema) : (chiama none).exec s = (.ok (), s) := rfl

namespace FirebaseAuth

def riconosce (auth : FirebaseAuth) (email password : String) : Option (String × Account) :=
  (auth.servizio.riconosce auth.accounts email password).bind fun uid =>
    (auth.accounts.get uid).map fun account => (uid, account)

theorem riconosce_eq_some_iff {auth : FirebaseAuth} {email password uid : String}
    {account : Account} : auth.riconosce email password = some (uid, account) ↔
      auth.servizio.riconosce auth.accounts email password = some uid ∧
        auth.accounts.get uid = some account := by
  simp only [riconosce, Option.bind_eq_some_iff, Option.map_eq_some_iff, Prod.mk.injEq]
  constructor
  · rintro ⟨uid, recognised, account, found, rfl, rfl⟩
    exact ⟨recognised, found⟩
  · rintro ⟨recognised, found⟩
    exact ⟨uid, recognised, account, found, rfl, rfl⟩

def signInWithEmailAndPassword (guasto : Option Thrown) (email password : String) :
    Azione (Option User) := do
  chiama guasto
  let s ← stato
  match s.auth.riconosce email password with
  | some (uid, account) =>
    let user := User.mk uid account.emailVerified
    modify fun s => { s with auth.currentUser := some user }
    pure (some user)
  | none => throw (.firebase "invalid-credential")

def reload (guasto : Option Thrown) (user : User) : Azione Unit := do
  -- the session reads the account again; a `User` that was taken before stays as it was
  chiama guasto
  let s ← stato
  match s.auth.accounts.get user.uid with
  | some account => modify fun s =>
    { s with auth.currentUser := some ⟨user.uid, account.emailVerified⟩ }
  | none => throw (.firebase "user-not-found")

def signOut (guasto : Option Thrown) : Azione Unit := do
  chiama guasto
  modify fun s => { s with auth.currentUser := none }

end FirebaseAuth

def getDoc (guasto : Option Thrown) (c : CollectionName) (id : String) :
    Azione (Option Document) := do
  chiama guasto
  let s ← stato
  pure (s.cloud.get c id)

def updateDoc (guasto : Option Thrown) (c : CollectionName) (id : String)
    (data : List (String × FieldWrite)) : Azione Unit := do
  chiama guasto
  let s ← stato
  match s.cloud.get c id with
  | some d => modify fun s => { s with cloud := s.cloud.put c id (d.writes data) }
  | none => throw (.firebase "not-found")

end TeamSync
