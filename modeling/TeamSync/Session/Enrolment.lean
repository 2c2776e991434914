import TeamSync.Session.Forms
import TeamSync.Session.Profile

/-! What a registration gives for good, along a run of one device.

The other devices and the server are events of the run: they may verify addresses,
change passwords, add accounts and end the first login of a profile.
-/

set_option autoImplicit false

namespace TeamSync.Navigazione

open Effects Session ViewModelUtente

/-- The account gets another password; here it never does. -/
def CambiaPassword (uid : String) : Dispositivo × Evento → Prop
  | (d, .altrove accounts _) =>
    (accounts.get uid).map Account.password ≠ (d.auth.accounts.get uid).map Account.password
  | _ => False

def Iscrive (dati : DatiRegistrazione) (uid : String) : Dispositivo × Evento → Prop
  | (d, .finisce chiave (.signUp dati') (guasti, uid')) =>
    dati' = dati ∧ uid' = uid ∧ (chiave, .signUp dati') ∈ d.attese ∧
      validateRegistrationField dati = none ∧ ¬ Rifiutata guasti dati (d.sistema chiave) ∧
      guasti.profilo = none
  | _ => False

/-! ## The accounts -/

def ContoNuovo (d : Dispositivo) : (attesa : Attesa) → attesa.Risposta → Prop
  | .signUp _, (_, uid) => d.auth.accounts.get uid = none
  | _, _ => True

/-- What the server promises, and what others do with a profile that is not theirs: an
account keeps its address, and at most the first login of its profile ends. -/
def Onesto : Dispositivo × Evento → Prop
  | (d, .finisce _ attesa risposta) => ContoNuovo d attesa risposta
  | (d, .altrove accounts cloud) => d.auth.servizio.Distinti accounts ∧
    ∀ uid account, d.auth.accounts.get uid = some account →
      (∃ password verified, password ≠ "" ∧
        accounts.get uid = some ⟨account.email, password, verified⟩) ∧
      (cloud.get .utenti uid = d.cloud.get .utenti uid ∨
        cloud.get .utenti uid = (accoglie uid d.cloud).get .utenti uid)
  | _ => True

section
variable {d : Dispositivo} {evento : Evento} {auth : FirebaseAuth} {uid email password : String}

theorem distinti_put {servizio : ServizioAuth} {accounts : Collection String Account}
    (distinct : servizio.Distinti accounts) {account : Account}
    (unused : ¬ servizio.InUso accounts account.email) :
    servizio.Distinti (accounts.put uid account) := by
  intro u u' a a' found found' same
  rw [Collection.get_put] at found found'
  split at found
  · next isUid =>
    cases found
    split at found'
    · next isUid' => exact isUid.trans isUid'.symm
    · exact absurd ⟨u', a', found', same.symm⟩ unused
  · split at found'
    · cases found'
      exact absurd ⟨u, a, found, same⟩ unused
    · exact distinct u u' a a' found found' same

theorem riconosce_iff (known : auth.servizio.PerCredenziali)
    (distinct : auth.servizio.Distinti auth.accounts) {account : Account}
    (found : auth.accounts.get uid = some account) :
    (∃ other, auth.riconosce email password = some (uid, other)) ↔
      auth.servizio.normale email = auth.servizio.normale account.email ∧
        password = account.password := by
  simp only [FirebaseAuth.riconosce_eq_some_iff, known.riconosce _ distinct]
  constructor
  · rintro ⟨other, ⟨account', stored, same, rfl⟩, -⟩
    cases found.symm.trans stored
    exact ⟨same.symm, rfl⟩
  · rintro ⟨same, rfl⟩
    exact ⟨account, ⟨account, found, same.symm, rfl⟩, found⟩

theorem distinti_esegui (known : d.auth.servizio.PerCredenziali)
    (distinct : d.auth.servizio.Distinti d.auth.accounts) (honest : Onesto (d, evento)) :
    (evento.esegui d).auth.servizio.Distinti (evento.esegui d).auth.accounts := by
  rw [(effetto d evento).servizio]
  cases effetto d evento with
  | nulla auth _ _ | accoglie _ auth _ => rwa [auth]
  | iscrive accepted auth _ _ =>
    rw [auth]
    exact distinti_put distinct fun used => accepted (.inr (known.rifiuta _ _ _ used))
  | altrove auth _ =>
    rw [auth]
    exact honest.1

end

/-! ## The account and its profile -/

/-- The account is there, with the profile that was entered; the events since the
registration are listed. -/
structure Iscritto (uid : String) (dati : DatiRegistrazione)
    (dopo : List (Dispositivo × Evento)) (d : Dispositivo) : Prop where
  valido : validateRegistrationField dati = none
  servizio : d.auth.servizio.PerCredenziali
  distinti : d.auth.servizio.Distinti d.auth.accounts
  conto : ∃ account, d.auth.accounts.get uid = some account ∧ account.email = dati.email ∧
    account.password ≠ "" ∧
    ((∀ passo ∈ dopo, ¬ CambiaPassword uid passo) → account.password = dati.password)
  profilo : ∃ chiamato, d.cloud.get .utenti uid = some (documento uid dati chiamato) ∧
    (chiamato = true ↔ ∃ passo ∈ dopo, Accolto uid passo)

section
variable {uid : String} {dati : DatiRegistrazione} {dopo : List (Dispositivo × Evento)}
  {d : Dispositivo} {evento : Evento}

theorem get_accoglie (userId uid : String) (cloud : Store) :
    (accoglie userId cloud).get .utenti uid =
      if uid = userId then (cloud.get .utenti uid).map fun doc =>
        doc.writes [("primoAccesso", .value (.bool false))]
      else cloud.get .utenti uid := by
  unfold accoglie
  split
  · next doc stored =>
    rw [Store.get_put]
    by_cases same : uid = userId
    · subst same
      simp [stored]
    · simp [same]
  · next missing =>
    split
    · next same =>
      subst same
      rw [missing]
      rfl
    · rfl

theorem documento_inj {chiamato chiamato' : Bool}
    (same : documento uid dati chiamato = documento uid dati chiamato') : chiamato = chiamato' := by
  have read := primoAccessoDi_documento uid dati chiamato
  rw [same, primoAccessoDi_documento] at read
  simpa using read.symm

theorem compilato_of_valido : validateRegistrationField dati = none →
    dati.email.isEmpty = false ∧ formatoEmail.hasMatch dati.email = true ∧
      dati.password.isEmpty = false := by
  unfold validateRegistrationField
  intro valid
  repeat (split at valid <;> [cases valid; skip])
  simp_all

theorem conto_esegui {account : Account} (found : d.auth.accounts.get uid = some account)
    (filled : account.password ≠ "") (honest : Onesto (d, evento)) :
    ∃ later, (evento.esegui d).auth.accounts.get uid = some later ∧
      later.email = account.email ∧ later.password ≠ "" ∧
      (¬ CambiaPassword uid (d, evento) → later.password = account.password) := by
  cases effetto d evento with
  | nulla auth _ _ | accoglie _ auth _ =>
    exact ⟨account, by rw [auth, found], rfl, filled, fun _ => rfl⟩
  | @iscrive _ _ _ uid' _ auth _ _ =>
    have fresh : d.auth.accounts.get uid' = none := honest
    have other : uid ≠ uid' := by
      rintro rfl
      cases found.symm.trans fresh
    refine ⟨account, ?_, rfl, filled, fun _ => rfl⟩
    rw [auth, Collection.get_put_of_ne _ _ other, found]
  | altrove auth _ =>
    obtain ⟨password, verified, filled', stored⟩ := (honest.2 uid account found).1
    refine ⟨⟨account.email, password, verified⟩, by rw [auth, stored], rfl, filled', ?_⟩
    simp [CambiaPassword, stored, found]

theorem profilo_esegui {account : Account} (found : d.auth.accounts.get uid = some account)
    {chiamato : Bool} (stored : d.cloud.get .utenti uid = some (documento uid dati chiamato))
    (honest : Onesto (d, evento)) :
    ∃ chiamato', (evento.esegui d).cloud.get .utenti uid = some (documento uid dati chiamato') ∧
      (chiamato' = true ↔ Accolto uid (d, evento) ∨ chiamato = true) := by
  have ended : (accoglie uid d.cloud).get .utenti uid = some (documento uid dati true) := by
    rw [get_accoglie, if_pos rfl, stored, Option.map_some, documento_writes]
  cases effetto d evento with
  | nulla _ cloud still => exact ⟨chiamato, by rw [cloud, stored], by simp [still]⟩
  | @iscrive _ _ _ uid' _ _ cloud _ =>
    have fresh : d.auth.accounts.get uid' = none := honest
    have other : uid ≠ uid' := by
      rintro rfl
      cases found.symm.trans fresh
    refine ⟨chiamato, ?_, by simp [Accolto]⟩
    rw [cloud]
    split
    · rw [Store.get_put, if_neg fun same => other same.2, stored]
    · exact stored
  | @accoglie _ userId waiting _ cloud =>
    by_cases same : uid = userId
    · subst same
      exact ⟨true, by rw [cloud, ended], iff_of_true rfl (.inl ⟨rfl, rfl, waiting⟩)⟩
    · refine ⟨chiamato, ?_, by simp [Accolto, Ne.symm same]⟩
      rw [cloud, get_accoglie, if_neg same, stored]
  | altrove _ cloud =>
    rcases (honest.2 uid account found).2 with same | closed
    · exact ⟨chiamato, by rw [cloud, same, stored], by simp [Accolto, same]⟩
    · refine ⟨true, by rw [cloud, closed, ended], iff_of_true rfl ?_⟩
      rw [or_iff_not_imp_left, Accolto, not_not, closed, ended, stored]
      exact fun same => (documento_inj (Option.some.inj same)).symm

theorem Iscritto.esegui (holds : Iscritto uid dati dopo d) (honest : Onesto (d, evento)) :
    Iscritto uid dati ((d, evento) :: dopo) (evento.esegui d) := by
  obtain ⟨account, found, email, filled, unchanged⟩ := holds.conto
  obtain ⟨chiamato, stored, ended⟩ := holds.profilo
  refine ⟨holds.valido, (effetto d evento).servizio ▸ holds.servizio,
    distinti_esegui holds.servizio holds.distinti honest, ?_, ?_⟩
  · obtain ⟨later, found', email', filled', same⟩ := conto_esegui found filled honest
    refine ⟨later, found', email'.trans email, filled', fun none => ?_⟩
    obtain ⟨now, before⟩ := List.forall_mem_cons.mp none
    exact (same now).trans (unchanged before)
  · obtain ⟨chiamato', stored', now⟩ := profilo_esegui found stored honest
    refine ⟨chiamato', stored', ?_⟩
    rw [now, ended, List.exists_mem_cons_iff]

theorem iscritto_of_iscrive (known : d.auth.servizio.PerCredenziali)
    (distinct : d.auth.servizio.Distinti d.auth.accounts) (honest : Onesto (d, evento))
    (registers : Iscrive dati uid (d, evento)) : Iscritto uid dati [] (evento.esegui d) := by
  have later := distinti_esegui known distinct honest
  have known := (effetto d evento).servizio ▸ known
  match evento, registers with
  | .finisce chiave (.signUp _) (guasti, _), ⟨rfl, rfl, waiting, valid, accepted, works⟩ =>
    have ended := conclude_signUp_servizi d chiave (d.attese.erase (chiave, .signUp dati)) dati
      guasti uid
    rw [Evento.esegui, if_pos waiting] at later known ⊢
    dsimp only at ended
    cases signUp_esito guasti uid dati (d.sistema chiave) with
    | nonValida invalid _ => cases valid.symm.trans invalid
    | rifiutata _ refused _ => exact absurd refused accepted
    | senzaProfilo _ _ failing _ => exact absurd works failing
    | riuscita _ _ _ final =>
      rw [final] at ended
      obtain ⟨auth, cloud⟩ := ended
      refine ⟨valid, known, later, ⟨⟨dati.email, dati.password, false⟩, ?_, rfl, ?_, fun _ => rfl⟩,
        ⟨false, ?_, by simp⟩⟩
      · rw [auth]
        exact get_iscritto _ uid dati
      · simpa [String.isEmpty_iff] using (compilato_of_valido valid).2.2
      · rw [cloud]
        exact Store.get_put_self _ _ _ _

theorem Corsa.distinti {inizio : Dispositivo} {passi : List (Dispositivo × Evento)}
    (corsa : Corsa inizio passi d) (known : inizio.auth.servizio.PerCredenziali)
    (distinct : inizio.auth.servizio.Distinti inizio.auth.accounts)
    (honest : ∀ passo ∈ passi, Onesto passo) : d.auth.servizio.Distinti d.auth.accounts := by
  induction corsa with
  | avvio => exact distinct
  | passo evento earlier ih =>
    obtain ⟨now, before⟩ := List.forall_mem_cons.mp honest
    exact distinti_esegui (earlier.servizio ▸ known) (ih before) now

/-- The account is kept along a run. -/
theorem Corsa.iscritto {inizio d₀ : Dispositivo} {prima : List (Dispositivo × Evento)}
    (corsa : Corsa inizio (dopo ++ (d₀, evento) :: prima) d)
    (known : inizio.auth.servizio.PerCredenziali)
    (distinct : inizio.auth.servizio.Distinti inizio.auth.accounts)
    (honest : ∀ passo ∈ dopo ++ (d₀, evento) :: prima, Onesto passo)
    (registers : Iscrive dati uid (d₀, evento)) : Iscritto uid dati dopo d := by
  induction dopo generalizing d with
  | nil =>
    obtain ⟨now, before⟩ := List.forall_mem_cons.mp honest
    rw [List.nil_append] at corsa
    cases corsa with
    | passo _ earlier =>
      exact iscritto_of_iscrive (earlier.servizio ▸ known) (earlier.distinti known distinct before)
        now registers
  | cons passo dopo ih =>
    obtain ⟨now, before⟩ := List.forall_mem_cons.mp honest
    rw [List.cons_append] at corsa
    cases corsa with
    | passo _ earlier => exact (ih earlier before).esegui now

/-! ## The login of the account -/

variable {chiave : Nat} {account : Account}

theorem Iscritto.accettato (holds : Iscritto uid dati dopo d) (chiave : Nat)
    (found : d.auth.accounts.get uid = some account) :
    Session.accettato .nessuno dati.email account.password (d.sistema chiave).toSistema =
      some (uid, account) := by
  obtain ⟨account', found', email, filled, -⟩ := holds.conto
  cases found.symm.trans found'
  obtain ⟨other, recognised⟩ := (riconosce_iff holds.servizio holds.distinti found).mpr
    ⟨congrArg _ email.symm, rfl⟩
  cases found.symm.trans (FirebaseAuth.riconosce_eq_some_iff.mp recognised).2
  obtain ⟨address, format, -⟩ := compilato_of_valido holds.valido
  have password : account.password.isEmpty = false := by simpa [String.isEmpty_iff] using filled
  unfold Session.accettato
  simp only [address, format, password, Guasti.nessuno]
  exact recognised

theorem Iscritto.login (holds : Iscritto uid dati dopo d) (chiave : Nat)
    (found : d.auth.accounts.get uid = some account) (verified : account.emailVerified = true) :
    ∃ chiamato profilo, (chiamato = true ↔ ∃ passo ∈ dopo, Accolto uid passo) ∧
      ComeInserito uid dati profilo ∧
      ((ViewModelUtente.login .nessuno dati.email account.password).exec
        (d.sistema chiave).toSistema).2 =
          { (d.sistema chiave).toSistema with
            auth.currentUser := some ⟨uid, true⟩
            viewModel := ⟨some profilo, true, !chiamato, none⟩ } := by
  have accepted := holds.accettato chiave found
  obtain ⟨chiamato, stored, ended⟩ := holds.profilo
  obtain ⟨profilo, read, entered, -⟩ := fromFirestore_documento uid dati chiamato
  have stored' : (d.sistema chiave).cloud.get .utenti uid =
    some (documento uid dati chiamato) := stored
  have first : primoAccessoLetto Guasti.nessuno.primoAccesso (d.sistema chiave).toSistema uid =
      .ok (!chiamato) := by
    simp only [Guasti.nessuno, primoAccessoLetto, stored', primoAccessoDi_documento]
  have profile : profiloLetto Guasti.nessuno.profilo (d.sistema chiave).toSistema uid =
      some profilo := by
    simp only [Guasti.nessuno, profiloLetto, stored', Option.bind_some, read]
    rfl
  refine ⟨chiamato, profilo, ended, entered, ?_⟩
  cases login_esito .nessuno dati.email account.password (d.sistema chiave).toSistema with
  | rifiutato refused _ => cases accepted.symm.trans refused
  | nonVerificato same unverified _ =>
    cases accepted.symm.trans same
    exact absurd ⟨rfl, verified⟩ unverified
  | interrotto same _ failed _ =>
    cases accepted.symm.trans same
    cases first.symm.trans failed
  | riuscito same _ ok final =>
    cases accepted.symm.trans same
    cases first.symm.trans ok
    rw [final, profile]

end

end TeamSync.Navigazione
