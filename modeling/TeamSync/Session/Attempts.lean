import TeamSync.Session.Consistency
import TeamSync.Session.Registration

/-! What the flags of the three forms say after each attempt. -/

set_option autoImplicit false

namespace TeamSync.Session

open Effects ViewModelUtente

inductive Tentativo where
  | login (guasti : Guasti) (email password : String)
  | signUp (guasti : GuastiRegistrazione) (uid : String) (dati : DatiRegistrazione)
  | resetPassword (guasto : Option Eccezione) (email : String)
  | altrove (accounts : Collection String Account) (cloud : Store)

def Tentativo.esegui : Tentativo → SistemaConPosta → SistemaConPosta
  | .login guasti email password, s =>
    ((suSistema (ViewModelUtente.login guasti email password)).exec s).2
  | .signUp guasti uid dati, s => ((ViewModelUtente.signUp guasti uid dati).exec s).2
  | .resetPassword guasto email, s => ((ViewModelUtente.resetPassword guasto email).exec s).2
  | .altrove accounts cloud, s => { s with auth.accounts := accounts, cloud := cloud }

def passi : SistemaConPosta → List Tentativo → List (SistemaConPosta × Tentativo)
  | _, [] => []
  | s, tentativo :: resto => (s, tentativo) :: passi (tentativo.esegui s) resto

/-- A flag that is set just when the attempt has had its effect, and just when
there is no error. -/
def Vera (riuscito : Bool) (errore : Option String) (effetto : Prop) : Prop :=
  (riuscito = true ↔ effetto) ∧ (riuscito = true ↔ errore = none)

section
variable {s : SistemaConPosta}

theorem exec_suSistema {A : Type} (x : Azione A) (s : SistemaConPosta) :
    ((suSistema x).exec s).2 = { s with toSistema := (x.exec s.toSistema).2 } := by
  rw [suSistema, Action.exec_within]

/-- What the reset leaves: nothing is sent for an empty form, which keeps the
flag, nor when it fails. -/
inductive EsitoReset (email : String) (s final : SistemaConPosta) : Prop where
  | vuota {errore : String} : email.isEmpty = true →
      final = { s with moduli.erroreResetPassword := some errore } → EsitoReset email s final
  | fallito {errore : String} : email.isEmpty = false →
      final = { s with
        moduli.resetPasswordRiuscito := false
        moduli.erroreResetPassword := some errore } →
      EsitoReset email s final
  | spedito {spedite : List Mail} : email.isEmpty = false →
      s.auth.servizio.resetPassword s.auth.accounts email = .ok spedite →
      final = { s with
        posta := spedite ++ s.posta
        moduli.resetPasswordRiuscito := true
        moduli.erroreResetPassword := none } →
      EsitoReset email s final

theorem exec_sendPasswordResetEmail (guasto : Option Eccezione) (email : String) :
    (∃ e, (FirebaseAuth.sendPasswordResetEmail guasto email).exec s = (.error e, s)) ∨
    ∃ spedite, s.auth.servizio.resetPassword s.auth.accounts email = .ok spedite ∧
      (FirebaseAuth.sendPasswordResetEmail guasto email).exec s =
        (.ok (), { s with posta := spedite ++ s.posta }) := by
  unfold FirebaseAuth.sendPasswordResetEmail
  cases guasto with
  | some e => exact .inl ⟨e, rfl⟩
  | none =>
    rw [Action.exec_bind_of_ok (exec_tenta_none s), Action.exec_bind_of_ok (exec_statoConPosta s)]
    split
    · next spedite answered => exact .inr ⟨spedite, answered, rfl⟩
    · exact .inl ⟨_, rfl⟩

theorem resetPassword_esito (guasto : Option Eccezione) (email : String) (s : SistemaConPosta) :
    EsitoReset email s ((ViewModelUtente.resetPassword guasto email).exec s).2 := by
  unfold ViewModelUtente.resetPassword RepositoryUtente.resetPassword
  split
  · next empty => exact .vuota empty rfl
  next filled =>
  have filled : email.isEmpty = false := by simpa using filled
  split
  · exact .fallito filled rfl
  rcases exec_sendPasswordResetEmail (s := s) guasto email with
    ⟨e, failed⟩ | ⟨spedite, answered, sent⟩
  · rw [Action.exec_tryCatch_of_error (Action.exec_bind_of_error failed)]
    exact .fallito filled rfl
  · rw [Action.exec_tryCatch_of_ok ((Action.exec_bind_of_ok sent).trans (Action.exec_modify _ _))]
    exact .spedito filled answered rfl

end

/-! ### The service along a run -/

theorem login_servizi (guasti : Guasti) (email password : String) (s : Sistema) :
    (∃ user, ((ViewModelUtente.login guasti email password).exec s).2.auth =
      { s.auth with currentUser := user }) ∧
    ((ViewModelUtente.login guasti email password).exec s).2.cloud = s.cloud := by
  cases login_esito guasti email password s with
  | rifiutato _ final | nonVerificato _ _ final | interrotto _ _ _ final | riuscito _ _ _ final =>
    rw [final]
    exact ⟨⟨_, rfl⟩, rfl⟩

theorem resetPassword_viewModel (guasto : Option Eccezione) (email : String)
    (s : SistemaConPosta) :
    ((ViewModelUtente.resetPassword guasto email).exec s).2.toSistema = s.toSistema ∧
    ((ViewModelUtente.resetPassword guasto email).exec s).2.moduli.registrazioneRiuscita =
      s.moduli.registrazioneRiuscita := by
  cases resetPassword_esito guasto email s with
  | vuota empty final => simp [final]
  | fallito filled final => simp [final]
  | spedito filled answered final => simp [final]

end TeamSync.Session
