import TeamSync.Session.Attempts

/-! The pages of the application, and how it goes from one to another.

A gesture is made on the page that is shown. Calls that have been started end in
any order, whatever pages are shown by then; each works at its end. Dialogs, and
what the pages behind the login read and write, are left out.
-/

set_option autoImplicit false

namespace TeamSync

open Effects

/-- The routes of `NavGraph`, and the pages that are pushed without a name. -/
inductive Schermata where
  | benvenuto
  | ituoiProgetti
  | login
  | recuperoPassword
  | registrazione
  | verificaEmail
  | leMieAttivita (idProgetto : String)
  | infoProgetto (projectId : String)
  | modificaProgetto (projectId : String)
  | delegatask (progettoId : String)
  deriving DecidableEq, Repr

def Schermata.riservata : Schermata → Bool
  | .login | .recuperoPassword | .registrazione | .verificaEmail => false
  | _ => true

def Schermata.chiedeProgetti : Schermata → Bool
  -- the routes that ask for the `ProgettoViewModel` that is provided
  | .ituoiProgetti | .leMieAttivita _ => true
  | _ => false

/-- A call that has been started and has not ended. -/
inductive Attesa where
  | login (email password : String)
  | signUp (dati : ViewModelUtente.DatiRegistrazione)
  | resetPassword (email : String)
  | updateFirstLogin (userId : Option String)
  | logout
  | abbandonaProgetto
  deriving DecidableEq, Repr

/-- Where a call fails; for a registration also the identifier that a new account gets. -/
abbrev Attesa.Risposta : Attesa → Type
  | .login _ _ | .logout => Guasti
  | .signUp _ => ViewModelUtente.GuastiRegistrazione × String
  | .resetPassword _ => Option Eccezione
  | .updateFirstLogin _ | .abbandonaProgetto => Option Thrown

inductive Mossa where
  | pushNamed (schermata : Schermata)
  | pushReplacementNamed (schermata : Schermata)
  | pop
  | chiama (attesa : Attesa)
  deriving DecidableEq, Repr

inductive Gesto where
  | accedi (email password : String)
  | passwordDimenticata
  | registrati
  | next (dati : ViewModelUtente.DatiRegistrazione)
  | login
  | hoCapito
  | procedi (email : String)
  | iniziaOra
  | logout
  | progetto (id : String)
  | info
  | modifica
  | delega
  | abbandona
  | salva
  | freccia
  | indietro

/-- What a gesture does on a page; nothing where the page does not offer it. -/
def Schermata.mosse (utenteCorrente : Option ProfiloUtente) : Schermata → Gesto → List Mossa
  | .login, .accedi email password => [.chiama (.login email password)]
  | .login, .passwordDimenticata => [.pushNamed .recuperoPassword]
  | .login, .registrati => [.pushReplacementNamed .registrazione]
  | .registrazione, .next dati => [.chiama (.signUp dati)]
  | .registrazione, .login => [.pushReplacementNamed .login]
  | .verificaEmail, .hoCapito => [.pushReplacementNamed .login]
  | .recuperoPassword, .procedi email => [.chiama (.resetPassword email)]
  | .benvenuto, .iniziaOra => [.chiama (.updateFirstLogin (utenteCorrente.map ProfiloUtente.id))]
  -- the page of the login is shown before the logout has ended
  | .ituoiProgetti, .logout => [.chiama .logout, .pushReplacementNamed .login]
  | .ituoiProgetti, .progetto id => [.pushNamed (.leMieAttivita id)]
  | .leMieAttivita _, .freccia => [.pushReplacementNamed .ituoiProgetti]
  | .leMieAttivita id, .info => [.pushNamed (.infoProgetto id)]
  | .leMieAttivita id, .modifica => [.pushNamed (.modificaProgetto id)]
  | .leMieAttivita id, .delega => [.pushNamed (.delegatask id)]
  | .leMieAttivita _, .abbandona => [.chiama .abbandonaProgetto]
  | .infoProgetto _, .freccia => [.pop]
  | .modificaProgetto _, .freccia => [.pop]
  | .modificaProgetto id, .salva => [.pushNamed (.leMieAttivita id)]
  | .delegatask id, .freccia => [.pushNamed (.leMieAttivita id)]
  | _, .indietro => [.pop]
  | _, _ => []

def Moduli.nuovi : Moduli where
  registrazioneRiuscita := false
  erroreRegistrazione := none
  resetPasswordRiuscito := false
  erroreResetPassword := none

/-- The view models that a `NavGraph` provides, and the pages of its navigator. -/
structure NavGraph where
  chiave : Nat
  viewModel : ViewModelUtente
  moduli : Moduli
  utenteCorrenteId : Option (Option String)
  -- the page on top first. There is none where only another `NavGraph` is shown
  pagine : List Schermata
  deriving DecidableEq

namespace NavGraph

def nuovo (chiave : Nat) : NavGraph where
  chiave := chiave
  viewModel := .nuovo
  moduli := .nuovi
  utenteCorrenteId := none
  pagine := [.login]

def costruisce (g : NavGraph) (user : Option User) (schermata : Schermata) : NavGraph :=
  if schermata.chiedeProgetti ∧ g.utenteCorrenteId = none then
    { g with utenteCorrenteId := some (user.map User.uid) }
  else g

def pushNamed (g : NavGraph) (user : Option User) (schermata : Schermata) : NavGraph :=
  { g.costruisce user schermata with pagine := schermata :: g.pagine }

def pushReplacementNamed (g : NavGraph) (user : Option User) (schermata : Schermata) : NavGraph :=
  { g.costruisce user schermata with pagine := schermata :: g.pagine.tail }

def pop (g : NavGraph) : NavGraph :=
  match g.pagine with
  | _ :: schermata :: sotto => { g with pagine := schermata :: sotto }
  | _ => g

end NavGraph

/-- The application on one device, with the services as they are for it. -/
structure Dispositivo where
  auth : FirebaseAuth
  cloud : Store
  posta : List Mail
  -- the innermost first, each shown by the navigator of the next one
  grafi : List NavGraph
  prossima : Nat
  attese : List (Nat × Attesa)

namespace Dispositivo

def avviato (auth : FirebaseAuth) (cloud : Store) (posta : List Mail) : Dispositivo where
  auth := auth
  cloud := cloud
  posta := posta
  grafi := [.nuovo 0]
  prossima := 1
  attese := []

def grafo (d : Dispositivo) (chiave : Nat) : NavGraph :=
  -- a `NavGraph` that has been removed: nothing shows its view models any more
  (d.grafi.find? fun g => g.chiave = chiave).getD { NavGraph.nuovo chiave with pagine := [] }

def sistema (d : Dispositivo) (chiave : Nat) : SistemaConPosta where
  -- the services, with the view model of this `NavGraph`
  auth := d.auth
  cloud := d.cloud
  viewModel := (d.grafo chiave).viewModel
  moduli := (d.grafo chiave).moduli
  posta := d.posta

def dopo (d : Dispositivo) (chiave : Nat) (s : SistemaConPosta) : Dispositivo :=
  { d with
    auth := s.auth
    cloud := s.cloud
    posta := s.posta
    grafi := d.grafi.map fun g =>
      if g.chiave = chiave then { g with viewModel := s.viewModel, moduli := s.moduli } else g }

/-- The navigator of this `NavGraph` changes its pages: what it has shown over them is gone. -/
def naviga (d : Dispositivo) (chiave : Nat) (cambia : NavGraph → NavGraph) : Dispositivo :=
  match d.grafi.dropWhile fun g => g.chiave ≠ chiave with
  | g :: esterni => { d with grafi := cambia g :: esterni }
  | [] => d

/-- A new `NavGraph` takes the place of all the pages of this one. -/
def pushAndRemoveUntil (d : Dispositivo) (chiave : Nat) : Dispositivo :=
  match d.grafi.dropWhile fun g => g.chiave ≠ chiave with
  | g :: esterni => { d with
    grafi := .nuovo d.prossima :: { g with pagine := [] } :: esterni
    prossima := d.prossima + 1 }
  | [] => d

def mossa (d : Dispositivo) (chiave : Nat) : Mossa → Dispositivo
  | .pushNamed schermata => d.naviga chiave fun g => g.pushNamed d.auth.currentUser schermata
  | .pushReplacementNamed schermata =>
    d.naviga chiave fun g => g.pushReplacementNamed d.auth.currentUser schermata
  | .pop => d.naviga chiave NavGraph.pop
  | .chiama attesa => { d with attese := (chiave, attesa) :: d.attese }

def tocca (d : Dispositivo) (gesto : Gesto) : Dispositivo :=
  match d.grafi with
  | g :: _ =>
    match g.pagine with
    | schermata :: _ =>
      (schermata.mosse g.viewModel.utenteCorrente gesto).foldl (fun d m => d.mossa g.chiave m) d
    | [] => d
  | [] => d

/-- What is done with the view model once a call has ended, and the page that is shown then. -/
def conclude (d : Dispositivo) (chiave : Nat) : (attesa : Attesa) → attesa.Risposta → Dispositivo
  | .login email password, guasti =>
    let s := (Session.Tentativo.login guasti email password).esegui (d.sistema chiave)
    -- the flag may be that of an earlier login
    if s.viewModel.loginSuccessful then
      (d.dopo chiave s).mossa chiave (.pushReplacementNamed
        (if s.viewModel.firstLogin then .benvenuto else .ituoiProgetti))
    else d.dopo chiave s
  | .signUp dati, (guasti, uid) =>
    let s := (Session.Tentativo.signUp guasti uid dati).esegui (d.sistema chiave)
    if s.moduli.registrazioneRiuscita then
      (d.dopo chiave { s with moduli.registrazioneRiuscita := false }).mossa chiave
        (.pushReplacementNamed .verificaEmail)
    else d.dopo chiave s
  | .resetPassword email, guasto =>
    let s := (Session.Tentativo.resetPassword guasto email).esegui (d.sistema chiave)
    if s.moduli.resetPasswordRiuscito then
      (d.dopo chiave { s with moduli.resetPasswordRiuscito := false }).mossa chiave
        (.pushReplacementNamed .login)
    else d.dopo chiave s
  | .updateFirstLogin none, _ => d.mossa chiave (.pushReplacementNamed .ituoiProgetti)
  | .updateFirstLogin (some userId), guasto =>
    match (RepositoryUtente.updateFirstLogin guasto userId).exec (d.sistema chiave).toSistema with
    | (.ok (), s) => { d with cloud := s.cloud }.mossa chiave (.pushReplacementNamed .ituoiProgetti)
    | (.error _, _) => d
  | .logout, guasti =>
    match (ViewModelUtente.logout guasti).exec (d.sistema chiave).toSistema with
    | (.ok (), s) => { d with auth := s.auth }.pushAndRemoveUntil chiave
    | (.error _, _) => d
  | .abbandonaProgetto, none => d.mossa chiave (.pushReplacementNamed .ituoiProgetti)
  | .abbandonaProgetto, some _ => d

end Dispositivo

namespace Navigazione

inductive Evento where
  | tocca (gesto : Gesto)
  | finisce (chiave : Nat) (attesa : Attesa) (risposta : attesa.Risposta)
  | altrove (accounts : Collection String Account) (cloud : Store)

def Evento.esegui (d : Dispositivo) : Evento → Dispositivo
  | .tocca gesto => d.tocca gesto
  | .finisce chiave attesa risposta =>
    if (chiave, attesa) ∈ d.attese then
      { d with attese := d.attese.erase (chiave, attesa) }.conclude chiave attesa risposta
    else d
  | .altrove accounts cloud => { d with auth.accounts := accounts, cloud := cloud }

/-- The events of a run, newest first, each with the state it has found. -/
inductive Corsa (inizio : Dispositivo) : List (Dispositivo × Evento) → Dispositivo → Prop where
  | avvio : Corsa inizio [] inizio
  | passo {passi : List (Dispositivo × Evento)} {d : Dispositivo} (evento : Evento) :
      Corsa inizio passi d → Corsa inizio ((d, evento) :: passi) (evento.esegui d)

end Navigazione

end TeamSync
