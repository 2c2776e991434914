import TeamSync.Session.Navigation

/-! What the events of a run do to the accounts and to the profiles. -/

set_option autoImplicit false

namespace TeamSync.Navigazione

open Effects Session ViewModelUtente

/-- The first login of the account ends, here or elsewhere. -/
def Accolto (uid : String) : Dispositivo × Evento → Prop
  | (d, .finisce chiave (.updateFirstLogin (some userId)) guasto) =>
    userId = uid ∧ guasto = none ∧ (chiave, .updateFirstLogin (some userId)) ∈ d.attese
  | (d, .altrove _ cloud) => cloud.get .utenti uid ≠ d.cloud.get .utenti uid
  | _ => False

def accoglie (userId : String) (cloud : Store) : Store :=
  match cloud.get .utenti userId with
  | some doc => cloud.put .utenti userId (doc.writes [("primoAccesso", .value (.bool false))])
  | none => cloud

/-- What an event leaves of the accounts and of the documents. -/
inductive Effetto (d final : Dispositivo) : Evento → Prop where
  | nulla {evento : Evento} {user : Option User} :
      final.auth = { d.auth with currentUser := user } → final.cloud = d.cloud →
      (∀ uid, ¬ Accolto uid (d, evento)) → Effetto d final evento
  | iscrive {chiave : Nat} {dati : DatiRegistrazione} {guasti : GuastiRegistrazione}
      {uid : String} : ¬ Rifiutata guasti dati (d.sistema chiave) →
      final.auth = { d.auth with
        accounts := d.auth.accounts.put uid ⟨dati.email, dati.password, false⟩
        currentUser := some ⟨uid, false⟩ } →
      final.cloud = (if guasti.profilo = none then d.cloud.put .utenti uid (profiloDi uid dati)
        else d.cloud) →
      validateRegistrationField dati = none →
      Effetto d final (.finisce chiave (.signUp dati) (guasti, uid))
  | accoglie {chiave : Nat} {userId : String} :
      (chiave, .updateFirstLogin (some userId)) ∈ d.attese →
      final.auth = d.auth →
      final.cloud = accoglie userId d.cloud →
      Effetto d final (.finisce chiave (.updateFirstLogin (some userId)) none)
  | altrove {accounts : Collection String Account} {cloud : Store} :
      final.auth = { d.auth with accounts := accounts } → final.cloud = cloud →
      Effetto d final (.altrove accounts cloud)

section
variable {d : Dispositivo} {chiave : Nat}

theorem naviga_servizi (d : Dispositivo) (chiave : Nat) (cambia : NavGraph → NavGraph) :
    (d.naviga chiave cambia).auth = d.auth ∧ (d.naviga chiave cambia).cloud = d.cloud ∧
      (d.naviga chiave cambia).posta = d.posta := by
  unfold Dispositivo.naviga
  split <;> exact ⟨rfl, rfl, rfl⟩

theorem mossa_servizi (d : Dispositivo) (chiave : Nat) (mossa : Mossa) :
    (d.mossa chiave mossa).auth = d.auth ∧ (d.mossa chiave mossa).cloud = d.cloud := by
  cases mossa with
  | chiama attesa => exact ⟨rfl, rfl⟩
  | pushNamed schermata | pushReplacementNamed schermata | pop =>
    obtain ⟨auth, cloud, -⟩ := naviga_servizi d chiave _
    exact ⟨auth, cloud⟩

theorem tocca_servizi (d : Dispositivo) (gesto : Gesto) :
    (d.tocca gesto).auth = d.auth ∧ (d.tocca gesto).cloud = d.cloud := by
  have moved : ∀ (mosse : List Mossa) (chiave : Nat) (d : Dispositivo),
      (mosse.foldl (fun d m => d.mossa chiave m) d).auth = d.auth ∧
        (mosse.foldl (fun d m => d.mossa chiave m) d).cloud = d.cloud := by
    intro mosse chiave
    induction mosse with
    | nil => exact fun d => ⟨rfl, rfl⟩
    | cons mossa rest ih =>
      intro d
      obtain ⟨auth, cloud⟩ := mossa_servizi d chiave mossa
      exact ⟨(ih _).1.trans auth, (ih _).2.trans cloud⟩
  unfold Dispositivo.tocca
  split
  · split
    · exact moved _ _ _
    · exact ⟨rfl, rfl⟩
  · exact ⟨rfl, rfl⟩

theorem pushAndRemoveUntil_servizi (d : Dispositivo) (chiave : Nat) :
    (d.pushAndRemoveUntil chiave).auth = d.auth ∧
      (d.pushAndRemoveUntil chiave).cloud = d.cloud := by
  unfold Dispositivo.pushAndRemoveUntil
  split <;> exact ⟨rfl, rfl⟩

theorem esegui_login (d : Dispositivo) (chiave : Nat) (guasti : Guasti) (email password : String) :
    (Tentativo.login guasti email password).esegui (d.sistema chiave) =
      { d.sistema chiave with toSistema :=
        ((ViewModelUtente.login guasti email password).exec (d.sistema chiave).toSistema).2 } :=
  exec_suSistema _ _

theorem conclude_login_servizi (email password : String) (guasti : Guasti) :
    (∃ user, (d.conclude chiave (.login email password) guasti).auth =
      { d.auth with currentUser := user }) ∧
    (d.conclude chiave (.login email password) guasti).cloud = d.cloud := by
  obtain ⟨⟨user, auth⟩, cloud⟩ :=
    login_servizi guasti email password (d.sistema chiave).toSistema
  rw [conclude_login, esegui_login]
  dsimp only
  split
  · obtain ⟨auth', cloud'⟩ := mossa_servizi (d.dopo chiave _) chiave _
    exact ⟨⟨user, auth'.trans auth⟩, cloud'.trans cloud⟩
  · exact ⟨⟨user, auth⟩, cloud⟩

theorem conclude_signUp_servizi (d : Dispositivo) (chiave : Nat) (left : List (Nat × Attesa))
    (dati : DatiRegistrazione) (guasti : GuastiRegistrazione) (uid : String) :
    let final := { d with attese := left }.conclude chiave (.signUp dati) (guasti, uid)
    let s := ((ViewModelUtente.signUp guasti uid dati).exec (d.sistema chiave)).2
    final.auth = s.auth ∧ final.cloud = s.cloud := by
  intro final s
  cases up : s.moduli.registrazioneRiuscita with
  | true =>
    have ended : final = _ := conclude_signUp_of_up up
    rw [ended]
    exact mossa_servizi _ _ _
  | false =>
    have ended : final = _ := conclude_signUp_of_down up
    rw [ended]
    exact ⟨rfl, rfl⟩

theorem conclude_resetPassword_servizi (d : Dispositivo) (chiave : Nat) (email : String)
    (guasto : Option Eccezione) :
    (d.conclude chiave (.resetPassword email) guasto).auth = d.auth ∧
      (d.conclude chiave (.resetPassword email) guasto).cloud = d.cloud := by
  have same := (resetPassword_viewModel guasto email (d.sistema chiave)).1
  have auth : ((ViewModelUtente.resetPassword guasto email).exec
      (d.sistema chiave)).2.auth = d.auth := congrArg Sistema.auth same
  have cloud : ((ViewModelUtente.resetPassword guasto email).exec
      (d.sistema chiave)).2.cloud = d.cloud := congrArg Sistema.cloud same
  cases up : ((ViewModelUtente.resetPassword guasto email).exec
    (d.sistema chiave)).2.moduli.resetPasswordRiuscito with
  | true =>
    rw [conclude_resetPassword_of_up up]
    obtain ⟨auth', cloud'⟩ := mossa_servizi (d.dopo chiave
      { ((ViewModelUtente.resetPassword guasto email).exec (d.sistema chiave)).2 with
        moduli.resetPasswordRiuscito := false }) chiave (.pushReplacementNamed .login)
    exact ⟨auth'.trans auth, cloud'.trans cloud⟩
  | false =>
    rw [conclude_resetPassword_of_down up]
    exact ⟨auth, cloud⟩

theorem exec_updateFirstLogin (userId : String) (s : Sistema) :
    (RepositoryUtente.updateFirstLogin none userId).exec s =
      (if (s.cloud.get .utenti userId).isSome then .ok () else .error (.firebase "not-found"),
        { s with cloud := accoglie userId s.cloud }) := by
  unfold RepositoryUtente.updateFirstLogin updateDoc accoglie
  rw [Action.exec_bind_of_ok (exec_chiama_none s), Action.exec_bind_of_ok (exec_stato s)]
  cases s.cloud.get .utenti userId <;> rfl

theorem conclude_updateFirstLogin_servizi (d : Dispositivo) (chiave : Nat) (userId : String) :
    (d.conclude chiave (.updateFirstLogin (some userId)) none).auth = d.auth ∧
      (d.conclude chiave (.updateFirstLogin (some userId)) none).cloud =
        accoglie userId d.cloud := by
  rw [Dispositivo.conclude, exec_updateFirstLogin]
  cases stored : d.cloud.get .utenti userId with
  | none =>
    have missing : (d.sistema chiave).cloud.get .utenti userId = none := stored
    simp [missing, accoglie, stored]
  | some doc =>
    have present : (d.sistema chiave).cloud.get .utenti userId = some doc := stored
    simp only [present]
    exact mossa_servizi _ _ _

theorem conclude_servizi (attesa : Attesa) (risposta : attesa.Risposta)
    (other : ∀ dati, attesa ≠ .signUp dati)
    (still : ∀ uid, ¬ Accolto uid (d, .finisce chiave attesa risposta))
    (waiting : (chiave, attesa) ∈ d.attese) {left : List (Nat × Attesa)} :
    (∃ user, ({ d with attese := left }.conclude chiave attesa risposta).auth =
      { d.auth with currentUser := user }) ∧
    ({ d with attese := left }.conclude chiave attesa risposta).cloud = d.cloud := by
  cases attesa with
  | login email password => exact conclude_login_servizi email password risposta
  | signUp dati => exact absurd rfl (other dati)
  | resetPassword email =>
    obtain ⟨auth, cloud⟩ := conclude_resetPassword_servizi { d with attese := left } chiave email
      risposta
    exact ⟨⟨_, auth⟩, cloud⟩
  | updateFirstLogin userId =>
    cases userId with
    | none =>
      obtain ⟨auth, cloud⟩ := mossa_servizi { d with attese := left } chiave
        (.pushReplacementNamed .ituoiProgetti)
      exact ⟨⟨_, auth⟩, cloud⟩
    | some userId =>
      cases risposta with
      | some e => exact ⟨⟨_, rfl⟩, rfl⟩
      | none => exact absurd ⟨rfl, rfl, waiting⟩ (still userId)
  | logout =>
    rw [conclude_logout]
    split
    · obtain ⟨auth, cloud⟩ := pushAndRemoveUntil_servizi
        { d with attese := left, auth.currentUser := none } chiave
      exact ⟨⟨none, auth⟩, cloud⟩
    · exact ⟨⟨_, rfl⟩, rfl⟩
  | abbandonaProgetto =>
    cases risposta with
    | none =>
      obtain ⟨auth, cloud⟩ := mossa_servizi { d with attese := left } chiave
        (.pushReplacementNamed .ituoiProgetti)
      exact ⟨⟨_, auth⟩, cloud⟩
    | some e => exact ⟨⟨_, rfl⟩, rfl⟩

theorem effetto (d : Dispositivo) (evento : Evento) : Effetto d (evento.esegui d) evento := by
  cases evento with
  | tocca gesto =>
    obtain ⟨auth, cloud⟩ := tocca_servizi d gesto
    exact .nulla auth cloud fun _ => id
  | altrove accounts cloud => exact .altrove rfl rfl
  | finisce chiave attesa risposta =>
    by_cases waiting : (chiave, attesa) ∈ d.attese
    case neg =>
      rw [Evento.esegui, if_neg waiting]
      refine .nulla rfl rfl fun uid accolto => ?_
      cases attesa with
      | updateFirstLogin userId =>
        cases userId with
        | none => exact accolto
        | some userId => exact waiting accolto.2.2
      | _ => exact accolto
    rw [Evento.esegui, if_pos waiting]
    -- a registration, the end of a first login, or any other call
    by_cases still : ∀ uid, ¬ Accolto uid (d, .finisce chiave attesa risposta)
    · by_cases registers : ∃ dati, attesa = .signUp dati
      · obtain ⟨dati, rfl⟩ := registers
        obtain ⟨guasti, uid⟩ := risposta
        have ended := conclude_signUp_servizi d chiave
          (d.attese.erase (chiave, .signUp dati)) dati guasti uid
        dsimp only at ended
        cases signUp_esito guasti uid dati (d.sistema chiave) with
        | nonValida _ final | rifiutata _ _ final =>
          rw [final] at ended
          exact .nulla ended.1 ended.2 still
        | senzaProfilo valid accepted failing final =>
          rw [final] at ended
          refine .iscrive accepted ended.1 ?_ valid
          rw [if_neg failing]
          exact ended.2
        | riuscita valid accepted works final =>
          rw [final] at ended
          refine .iscrive accepted ended.1 ?_ valid
          rw [if_pos works]
          exact ended.2
      · obtain ⟨⟨user, auth⟩, cloud⟩ := conclude_servizi attesa risposta
          (fun dati same => registers ⟨dati, same⟩) still waiting
        exact .nulla auth cloud still
    · obtain ⟨uid, accolto⟩ := not_forall_not.mp still
      cases attesa with
      | updateFirstLogin userId =>
        cases userId with
        | none => exact accolto.elim
        | some userId =>
          obtain ⟨rfl, rfl, -⟩ := accolto
          obtain ⟨auth, cloud⟩ := conclude_updateFirstLogin_servizi
            { d with attese := d.attese.erase (chiave, .updateFirstLogin (some userId)) } chiave
            userId
          exact .accoglie waiting auth cloud
      | _ => exact accolto.elim

theorem Effetto.servizio {final : Dispositivo} {evento : Evento}
    (effect : Effetto d final evento) : final.auth.servizio = d.auth.servizio := by
  cases effect with
  | nulla auth _ _ | iscrive _ auth _ _ | accoglie _ auth _ | altrove auth _ => rw [auth]

theorem Corsa.servizio {inizio : Dispositivo} {passi : List (Dispositivo × Evento)}
    (corsa : Corsa inizio passi d) : d.auth.servizio = inizio.auth.servizio := by
  induction corsa with
  | avvio => rfl
  | passo evento _ ih => exact (effetto _ evento).servizio.trans ih

end

end TeamSync.Navigazione
