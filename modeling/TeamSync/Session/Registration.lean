import TeamSync.ViewModel.ViewModelUtente

/-! What a registration leaves. -/

set_option autoImplicit false

namespace TeamSync.Session

open Effects ViewModelUtente

/-- The account is not created: the call fails, or the service refuses. -/
def Rifiutata (guasti : GuastiRegistrazione) (dati : DatiRegistrazione) (s : SistemaConPosta) :
    Prop :=
  guasti.creazione ≠ none ∨
    s.auth.servizio.rifiuta s.auth.accounts dati.email dati.password ≠ none

def iscritto (s : SistemaConPosta) (uid : String) (dati : DatiRegistrazione) : SistemaConPosta :=
  { s with
    auth.accounts := s.auth.accounts.put uid ⟨dati.email, dati.password, false⟩
    auth.currentUser := some ⟨uid, false⟩ }

def profiloDi (uid : String) (dati : DatiRegistrazione) : Document :=
  RepositoryUtente.profiloUtente uid dati.matricola dati.nome dati.cognome dati.dataNascita
    dati.sesso.toShortString dati.email

/-- What a registration leaves, by how far it comes. -/
inductive EsitoRegistrazione (guasti : GuastiRegistrazione) (uid : String)
    (dati : DatiRegistrazione) (s final : SistemaConPosta) : Prop where
  | nonValida {errore : String} : validateRegistrationField dati = some errore →
      final = { s with moduli.erroreRegistrazione := some errore } →
      EsitoRegistrazione guasti uid dati s final
  | rifiutata {errore : String} : validateRegistrationField dati = none →
      Rifiutata guasti dati s →
      final = { s with
        moduli.erroreRegistrazione := some errore
        moduli.registrazioneRiuscita := false } →
      EsitoRegistrazione guasti uid dati s final
  | senzaProfilo {errore : String} : validateRegistrationField dati = none →
      ¬ Rifiutata guasti dati s → guasti.profilo ≠ none →
      final = { iscritto s uid dati with
        moduli.erroreRegistrazione := some errore
        moduli.registrazioneRiuscita := false } →
      EsitoRegistrazione guasti uid dati s final
  | riuscita : validateRegistrationField dati = none →
      ¬ Rifiutata guasti dati s → guasti.profilo = none →
      final = { iscritto s uid dati with
        cloud := s.cloud.put .utenti uid (profiloDi uid dati)
        posta := if guasti.posta = none then .verifica uid :: s.posta else s.posta
        moduli.erroreRegistrazione := none
        moduli.registrazioneRiuscita := true } →
      EsitoRegistrazione guasti uid dati s final

section
variable {guasti : GuastiRegistrazione} {uid : String} {dati : DatiRegistrazione}
  {s : SistemaConPosta}

theorem exec_create_refused (uid : String) (refused : Rifiutata guasti dati s) :
    ∃ e, (FirebaseAuth.createUserWithEmailAndPassword guasti.creazione uid dati.email
      dati.password).exec s = (.error e, s) := by
  unfold FirebaseAuth.createUserWithEmailAndPassword
  cases failure : guasti.creazione with
  | some e => exact ⟨e, rfl⟩
  | none =>
    have refuses := refused.resolve_left (by simp [failure])
    obtain ⟨e, refuses⟩ := Option.ne_none_iff_exists'.mp refuses
    refine ⟨e, ?_⟩
    rw [Action.exec_bind_of_ok (exec_tenta_none s), Action.exec_bind_of_ok (exec_statoConPosta s),
      refuses]
    rfl

theorem exec_create (accepted : ¬ Rifiutata guasti dati s) :
    (FirebaseAuth.createUserWithEmailAndPassword guasti.creazione uid dati.email
      dati.password).exec s = (.ok (some ⟨uid, false⟩), iscritto s uid dati) := by
  obtain ⟨works, accepts⟩ := not_or.mp accepted
  unfold FirebaseAuth.createUserWithEmailAndPassword
  rw [not_not.mp works, Action.exec_bind_of_ok (exec_tenta_none s),
    Action.exec_bind_of_ok (exec_statoConPosta s), not_not.mp accepts]
  rfl

theorem exec_setDoc (guasto : Option Eccezione) (c : CollectionName) (id : String) (data : Document)
    (s : SistemaConPosta) :
    (setDoc guasto c id data).exec s =
      match guasto with
      | some e => (.error e, s)
      | none => (.ok (), { s with cloud := s.cloud.put c id data }) := by
  cases guasto <;> rfl

theorem exec_sendEmailVerification (uid : String) (guasto : Option Eccezione)
    (signed : s.auth.currentUser = some ⟨uid, false⟩) :
    ((ViewModelUtente.sendEmailVerification guasto).exec s).2 =
      { s with posta := if guasto = none then .verifica uid :: s.posta else s.posta } := by
  unfold ViewModelUtente.sendEmailVerification
  rw [Action.exec_bind_of_ok (exec_statoConPosta s), signed]
  cases guasto <;> rfl

theorem exec_repository_signUp (uid : String) (accepted : ¬ Rifiutata guasti dati s) :
    (RepositoryUtente.signUp guasti.creazione guasti.profilo uid dati.matricola dati.nome
      dati.cognome dati.dataNascita dati.sesso.toShortString dati.email dati.password).exec s =
      match guasti.profilo with
      | some e => (.error e, iscritto s uid dati)
      | none => (.ok (some ⟨uid, false⟩), { iscritto s uid dati with
          cloud := s.cloud.put .utenti uid (profiloDi uid dati) }) := by
  unfold RepositoryUtente.signUp
  rw [Action.exec_bind_of_ok (exec_create accepted)]
  simp only [Action.exec_bind, exec_setDoc]
  cases guasti.profilo <;> rfl

theorem exec_registra (uid : String) (accepted : ¬ Rifiutata guasti dati s) :
    (registra guasti uid dati).exec s =
      match guasti.profilo with
      | some e => (.error e, iscritto s uid dati)
      | none => (.ok (), { iscritto s uid dati with
          cloud := s.cloud.put .utenti uid (profiloDi uid dati)
          posta := if guasti.posta = none then .verifica uid :: s.posta else s.posta
          moduli.erroreRegistrazione := none
          moduli.registrazioneRiuscita := true }) := by
  unfold registra
  cases profilo : guasti.profilo with
  | some e =>
    have failed := exec_repository_signUp uid accepted
    rw [profilo] at failed
    rw [Action.exec_bind_of_error (Action.exec_discard_of_error failed)]
  | none =>
    have created := exec_repository_signUp uid accepted
    rw [profilo] at created
    rw [Action.exec_bind_of_ok (Action.exec_discard_of_ok created),
      Action.exec_bind_of_ok (Action.exec_detached _ _),
      exec_sendEmailVerification uid guasti.posta rfl]
    rfl

theorem signUp_esito (guasti : GuastiRegistrazione) (uid : String) (dati : DatiRegistrazione)
    (s : SistemaConPosta) :
    EsitoRegistrazione guasti uid dati s ((ViewModelUtente.signUp guasti uid dati).exec s).2 := by
  unfold ViewModelUtente.signUp
  rw [Action.exec_bind_of_ok (Action.exec_modify _ s)]
  cases valid : validateRegistrationField dati with
  | some errore => exact .nonValida valid rfl
  | none =>
    by_cases refused : Rifiutata guasti dati s
    · obtain ⟨e, failed⟩ := exec_create_refused uid
        (s := { s with moduli.erroreRegistrazione := none }) refused
      have body : (registra guasti uid dati).exec _ = (.error e, _) :=
        Action.exec_bind_of_error (Action.exec_discard_of_error
          (Action.exec_bind_of_error failed))
      rw [Action.exec_tryCatch_of_error body]
      exact .rifiutata valid refused rfl
    · have body := exec_registra uid
        (s := { s with moduli.erroreRegistrazione := none }) refused
      cases profilo : guasti.profilo with
      | some e =>
        rw [profilo] at body
        rw [Action.exec_tryCatch_of_error body]
        exact .senzaProfilo valid refused (by simp [profilo]) rfl
      | none =>
        rw [profilo] at body
        rw [Action.exec_tryCatch_of_ok body]
        exact .riuscita valid refused profilo rfl

end

/-! ## All or nothing -/

def Completata (dati : DatiRegistrazione) (s final : SistemaConPosta) : Prop :=
  ∃ uid account, final.auth.accounts.get uid = some account ∧ account.email = dati.email ∧
    final.cloud.get .utenti uid ≠ none ∧ final.posta = .verifica uid :: s.posta

/-- No account of the address and no profile is new. -/
def Annullata (dati : DatiRegistrazione) (s final : SistemaConPosta) : Prop :=
  (∀ uid account, final.auth.accounts.get uid = some account → account.email = dati.email →
    s.auth.accounts.get uid = some account) ∧
  ∀ id, final.cloud.get .utenti id ≠ none → s.cloud.get .utenti id ≠ none

def TuttoONiente (dati : DatiRegistrazione) (s final : SistemaConPosta) : Prop :=
  (final.moduli.registrazioneRiuscita = true ∧ final.moduli.erroreRegistrazione = none ∧
    Completata dati s final) ∨
  (final.moduli.erroreRegistrazione ≠ none ∧ Annullata dati s final)

theorem get_iscritto (s : SistemaConPosta) (uid : String) (dati : DatiRegistrazione) :
    (iscritto s uid dati).auth.accounts.get uid = some ⟨dati.email, dati.password, false⟩ :=
  Collection.get_put_self ..

def nessuno : SistemaConPosta where
  auth := ⟨.semplice, .empty, none⟩
  cloud := .empty
  viewModel := .nuovo
  moduli := ⟨false, none, false, none⟩
  posta := []

def datiDiCarla : DatiRegistrazione where
  matricola := "101"
  nome := "Carla"
  cognome := "Verdi"
  email := "carla@a.it"
  dataNascita := ⟨0, false⟩
  sesso := .donna
  password := "segreto"
  confermaPassword := "segreto"

def senzaGuasti : GuastiRegistrazione := ⟨none, none, none⟩

end TeamSync.Session
