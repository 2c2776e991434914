import TeamSync.ViewModel.ViewModelUtente

/-! What the actions on the session leave. -/

set_option autoImplicit false

namespace TeamSync.Session

open Effects

def profiloLetto (guasto : Option Thrown) (s : Sistema) (uid : String) : Option ProfiloUtente :=
  match guasto with
  | some _ => none
  | none => (s.cloud.get .utenti uid).bind fun data =>
    (ProfiloUtente.fromFirestore uid data).toOption

def primoAccessoLetto (guasto : Option Thrown) (s : Sistema) (uid : String) : Except Thrown Bool :=
  match guasto with
  | some e => .error e
  | none => RepositoryUtente.primoAccessoDi (s.cloud.get .utenti uid)

theorem exec_getDoc_none (c : CollectionName) (id : String) (s : Sistema) :
    (getDoc none c id).exec s = (.ok (s.cloud.get c id), s) := rfl

theorem exec_repository_fetchUserProfile (guasto : Option Thrown) (uid : String) (s : Sistema) :
    (RepositoryUtente.fetchUserProfile guasto uid).exec s =
    (.ok (profiloLetto guasto s uid), s) := by
  unfold RepositoryUtente.fetchUserProfile
  cases guasto with
  | some e => rfl
  | none =>
    rw [Action.exec_tryCatch, Action.exec_bind_of_ok (exec_getDoc_none _ _ s)]
    unfold profiloLetto
    cases s.cloud.get .utenti uid with
    | none => rfl
    | some data =>
      simp only [Option.bind_some]
      cases ProfiloUtente.fromFirestore uid data <;> rfl

theorem exec_fetchUserProfile (guasti : Guasti) (uid : String) (s : Sistema) :
    (ViewModelUtente.fetchUserProfile guasti uid).exec s =
      (.ok (), { s with viewModel.utenteCorrente := profiloLetto guasti.profilo s uid }) := by
  unfold ViewModelUtente.fetchUserProfile
  rw [Action.exec_tryCatch, Action.exec_bind_of_ok
    (exec_repository_fetchUserProfile guasti.profilo uid s)]
  rfl

theorem exec_isFirstLogin (guasto : Option Thrown) (uid : String) (s : Sistema) :
    (RepositoryUtente.isFirstLogin guasto uid).exec s = (primoAccessoLetto guasto s uid, s) := by
  unfold RepositoryUtente.isFirstLogin
  cases guasto with
  | some e => rfl
  | none =>
    rw [Action.exec_bind_of_ok (exec_getDoc_none _ _ s)]
    unfold primoAccessoLetto
    simp only
    cases RepositoryUtente.primoAccessoDi (s.cloud.get .utenti uid) <;> rfl

/-- The account that a login signs in: the form is filled in, the sign-in does
not fail, and the credentials are those of an account. -/
def accettato (guasti : Guasti) (email password : String) (s : Sistema) :
    Option (String × Account) :=
  if email.isEmpty || !ViewModelUtente.formatoEmail.hasMatch email || password.isEmpty ||
    guasti.signIn.isSome then
    none
  else
    s.auth.riconosce email password

/-- What a login leaves, by how far it comes. -/
inductive Esito (guasti : Guasti) (email password : String) (s final : Sistema) : Prop where
  | rifiutato {errore : String} : accettato guasti email password s = none →
      final = { s with viewModel.erroreLogin := some errore } → Esito guasti email password s final
  | nonVerificato {uid errore : String} {account : Account} :
      accettato guasti email password s = some (uid, account) →
      ¬ (guasti.reload = none ∧ account.emailVerified = true) →
      final = { s with
        auth.currentUser := some ⟨uid, account.emailVerified⟩
        viewModel.erroreLogin := some errore } →
      Esito guasti email password s final
  | interrotto {uid errore : String} {account : Account} {e : Thrown} :
      accettato guasti email password s = some (uid, account) →
      guasti.reload = none ∧ account.emailVerified = true →
      primoAccessoLetto guasti.primoAccesso s uid = .error e →
      final = { s with
        auth.currentUser := some ⟨uid, true⟩
        viewModel.utenteCorrente := profiloLetto guasti.profilo s uid
        viewModel.erroreLogin := some errore } →
      Esito guasti email password s final
  | riuscito {uid : String} {account : Account} {firstLogin : Bool} :
      accettato guasti email password s = some (uid, account) →
      guasti.reload = none ∧ account.emailVerified = true →
      primoAccessoLetto guasti.primoAccesso s uid = .ok firstLogin →
      final = { s with
        auth.currentUser := some ⟨uid, true⟩
        viewModel := ⟨profiloLetto guasti.profilo s uid, true, firstLogin, none⟩ } →
      Esito guasti email password s final

section
variable {guasti : Guasti} {email password uid : String} {account : Account} {s : Sistema}

theorem exec_signIn_refused {guasto : Option Thrown}
    (refused : guasto.isSome = true ∨ s.auth.riconosce email password = none) :
    ∃ e, (FirebaseAuth.signInWithEmailAndPassword guasto email password).exec s =
      (.error e, s) := by
  unfold FirebaseAuth.signInWithEmailAndPassword
  cases guasto with
  | some e => exact ⟨e, rfl⟩
  | none =>
    have unknown := refused.resolve_left (by simp)
    refine ⟨.firebase "invalid-credential", ?_⟩
    rw [Action.exec_bind_of_ok (exec_chiama_none s), Action.exec_bind_of_ok (exec_stato s), unknown]
    rfl

theorem exec_signIn (found : s.auth.riconosce email password = some (uid, account)) :
    (FirebaseAuth.signInWithEmailAndPassword none email password).exec s =
      (.ok (some ⟨uid, account.emailVerified⟩),
        { s with auth.currentUser := some ⟨uid, account.emailVerified⟩ }) := by
  unfold FirebaseAuth.signInWithEmailAndPassword
  rw [Action.exec_bind_of_ok (exec_chiama_none s), Action.exec_bind_of_ok (exec_stato s), found]
  rfl

theorem exec_isEmailVerified (guasto : Option Thrown)
    (signed : s.auth.currentUser = some ⟨uid, account.emailVerified⟩)
    (stored : s.auth.accounts.get uid = some account) :
    (RepositoryUtente.isEmailVerified guasto).exec s =
      (match guasto with | some e => .error e | none => .ok account.emailVerified, s) := by
  unfold RepositoryUtente.isEmailVerified
  rw [Action.exec_bind_of_ok (exec_stato s), signed]
  cases guasto with
  | some e => rfl
  | none =>
    -- the account has not changed since the sign-in
    have same : { s with auth.currentUser := some ⟨uid, account.emailVerified⟩ } = s := by
      rw [← signed]
    have read : (FirebaseAuth.reload none ⟨uid, account.emailVerified⟩).exec s = (.ok (), s) := by
      unfold FirebaseAuth.reload
      rw [Action.exec_bind_of_ok (exec_chiama_none s),
        Action.exec_bind_of_ok (exec_stato s), stored]
      simp only [Action.exec_modify, same]
    simp only
    rw [Action.exec_bind_of_ok read]
    rfl

theorem exec_setErroreLogin (messaggio : String) (s : Sistema) :
    (ViewModelUtente.setErroreLogin messaggio).exec s =
      (.ok (), { s with viewModel.erroreLogin := some messaggio }) := rfl

theorem exec_verifica_of_verified {user : User} {mid : Sistema}
    (verified : (RepositoryUtente.isEmailVerified guasti.reload).exec s = (.ok true, mid)) :
    (ViewModelUtente.verifica guasti user).exec s =
      match primoAccessoLetto guasti.primoAccesso mid user.uid with
      | .error e =>
        (.error e, { mid with
          viewModel.utenteCorrente := profiloLetto guasti.profilo mid user.uid })
      | .ok firstLogin =>
        (.ok (), { mid with
          viewModel := ⟨profiloLetto guasti.profilo mid user.uid, true, firstLogin, none⟩ }) := by
  -- the second read does not depend on the profile that is set before it
  have read : (RepositoryUtente.isFirstLogin guasti.primoAccesso user.uid).exec
      { mid with viewModel.utenteCorrente := profiloLetto guasti.profilo mid user.uid } =
        (primoAccessoLetto guasti.primoAccesso mid user.uid, _) := exec_isFirstLogin _ _ _
  unfold ViewModelUtente.verifica
  rw [Action.exec_bind_of_ok verified, if_pos rfl,
    Action.exec_bind_of_ok (exec_fetchUserProfile guasti user.uid mid), Action.exec_bind, read]
  cases primoAccessoLetto guasti.primoAccesso mid user.uid <;> rfl

theorem exec_accedi (signIn : guasti.signIn = none)
    (found : s.auth.riconosce email password = some (uid, account)) :
    (ViewModelUtente.accedi guasti email password).exec s =
      (ViewModelUtente.verifica guasti ⟨uid, account.emailVerified⟩).exec
        { s with auth.currentUser := some ⟨uid, account.emailVerified⟩ } := by
  unfold ViewModelUtente.accedi RepositoryUtente.login
  rw [signIn, Action.exec_bind_of_ok (exec_signIn found)]

/-- After the sign-in the reload decides, then the read of `primoAccesso`. -/
theorem esito_verifica {signed : Sistema}
    (accepted : accettato guasti email password s = some (uid, account))
    (stored : s.auth.accounts.get uid = some account)
    (after : signed = { s with auth.currentUser := some ⟨uid, account.emailVerified⟩ }) :
    Esito guasti email password s
      ((tryCatch (ViewModelUtente.verifica guasti ⟨uid, account.emailVerified⟩) fun _ =>
        ViewModelUtente.setErroreLogin ViewModelUtente.credenzialiErrate :
          Azione Unit).exec signed).2 := by
  have current : signed.auth.currentUser = some ⟨uid, account.emailVerified⟩ := by rw [after]
  have present : signed.auth.accounts.get uid = some account := by rw [after]; exact stored
  have checked := exec_isEmailVerified guasti.reload current present
  obtain ⟨_, _, verified⟩ := account
  cases reload : guasti.reload with
  | some e =>
    rw [reload] at checked
    have failed : (ViewModelUtente.verifica guasti ⟨uid, verified⟩).exec signed =
        (.error e, signed) := by
      unfold ViewModelUtente.verifica
      rw [reload]
      exact Action.exec_bind_of_error checked
    rw [Action.exec_tryCatch_of_error failed, after]
    exact .nonVerificato accepted (by simp [reload]) rfl
  | none =>
    rw [reload] at checked
    cases verified with
    | false =>
      have refused : (ViewModelUtente.verifica guasti ⟨uid, false⟩).exec signed =
          (ViewModelUtente.setErroreLogin ViewModelUtente.emailNonVerificata).exec signed := by
        unfold ViewModelUtente.verifica
        rw [reload]
        exact Action.exec_bind_of_ok checked
      rw [Action.exec_tryCatch_of_ok (refused.trans (exec_setErroreLogin _ _)), after]
      exact .nonVerificato accepted (by simp) rfl
    | true =>
      have checked : (RepositoryUtente.isEmailVerified guasti.reload).exec signed =
          (.ok true, signed) := by
        rw [reload]
        exact checked
      have body : (ViewModelUtente.verifica guasti ⟨uid, true⟩).exec signed = _ :=
        exec_verifica_of_verified checked
      cases first : primoAccessoLetto guasti.primoAccesso s uid with
      | error e =>
        have failed : primoAccessoLetto guasti.primoAccesso signed uid = .error e := by
          rw [after]; exact first
        rw [failed] at body
        rw [Action.exec_tryCatch_of_error body, after]
        exact .interrotto accepted ⟨reload, rfl⟩ first rfl
      | ok firstLogin =>
        have read : primoAccessoLetto guasti.primoAccesso signed uid = .ok firstLogin := by
          rw [after]; exact first
        rw [read] at body
        rw [Action.exec_tryCatch_of_ok body, after]
        exact .riuscito accepted ⟨reload, rfl⟩ first rfl

theorem login_esito (guasti : Guasti) (email password : String) (s : Sistema) :
    Esito guasti email password s ((ViewModelUtente.login guasti email password).exec s).2 := by
  unfold ViewModelUtente.login
  split
  · next empty => exact .rifiutato (by simp [accettato, empty]) rfl
  split
  · next badFormat => exact .rifiutato (by simp_all [accettato]) rfl
  split
  · next empty => exact .rifiutato (by simp [accettato, empty]) rfl
  next filled wellFormed chosen =>
  have attempt : accettato guasti email password s =
      if guasti.signIn.isSome then none else s.auth.riconosce email password := by
    simp_all [accettato]
  by_cases refused : guasti.signIn.isSome = true ∨ s.auth.riconosce email password = none
  · -- the sign-in throws, and nothing has changed yet
    obtain ⟨e, failed⟩ := exec_signIn_refused refused
    have body : (ViewModelUtente.accedi guasti email password).exec s = (.error e, s) :=
      Action.exec_bind_of_error failed
    rw [Action.exec_tryCatch_of_error body]
    refine .rifiutato ?_ rfl
    rcases refused with failing | unknown
    · rw [attempt, if_pos failing]
    · rw [attempt, unknown, ite_self]
  · obtain ⟨notFailing, known⟩ := not_or.mp refused
    have signIn : guasti.signIn = none := by simpa using notFailing
    obtain ⟨⟨uid, account⟩, found⟩ := Option.ne_none_iff_exists'.mp known
    have accepted : accettato guasti email password s = some (uid, account) := by
      rw [attempt, if_neg notFailing, found]
    have same := esito_verifica accepted (FirebaseAuth.riconosce_eq_some_iff.mp found).2 rfl
    rw [Action.exec_tryCatch, ← exec_accedi signIn found] at same
    rw [Action.exec_tryCatch]
    exact same

end

end TeamSync.Session
