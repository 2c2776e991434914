import Mathlib.Logic.Relation
import TeamSync.Session.Login
import TeamSync.Session.Registration

/-! The profile of a registered user, as it is read later. -/

set_option autoImplicit false

namespace TeamSync.Session

open Effects ViewModelUtente

/-- The profile has what was entered, the date of birth to the millisecond. -/
structure ComeInserito (uid : String) (dati : DatiRegistrazione) (profilo : ProfiloUtente) :
    Prop where
  id : profilo.id = uid
  matricola : profilo.matricola = dati.matricola
  nome : profilo.nome = dati.nome
  cognome : profilo.cognome = dati.cognome
  email : profilo.email = dati.email
  sesso : profilo.sesso = dati.sesso
  dataDiNascita : profilo.dataDiNascita.millisecondsSinceEpoch =
    dati.dataNascita.millisecondsSinceEpoch
  immagine : profilo.immagine = none
  amici : profilo.amici = []

/-- A step on some device, and whether `updateFirstLogin` has returned for the profile. -/
inductive Seguito (uid : String) : Bool × Sistema → Bool × Sistema → Prop where
  -- anything that leaves the user's document as it is
  | altro {chiamato : Bool} {s t : Sistema} :
      t.cloud.get .utenti uid = s.cloud.get .utenti uid → Seguito uid (chiamato, s) (chiamato, t)
  | updateFirstLogin {chiamato : Bool} {s t : Sistema} {guasto : Option Thrown} :
      s.viewModel.utenteCorrente.map ProfiloUtente.id = some uid →
      (ViewModelUtente.updateFirstLogin guasto).exec s = (.ok (), t) →
      Seguito uid (chiamato, s) (true, t)

def documento (uid : String) (dati : DatiRegistrazione) (chiamato : Bool) : Document :=
  if chiamato then (profiloDi uid dati).writes [("primoAccesso", .value (.bool false))]
  else profiloDi uid dati

section
variable {uid : String} {dati : DatiRegistrazione} {guasti : GuastiRegistrazione}

theorem named_toShortString (sesso : SessoUtente) :
    SessoUtente.named (some (.string sesso.toShortString)) = sesso := by
  cases sesso <;> decide

/-- The stored profile is read as it was entered. -/
theorem fromFirestore_documento (uid : String) (dati : DatiRegistrazione) (chiamato : Bool) :
    ∃ profilo, ProfiloUtente.fromFirestore uid (documento uid dati chiamato) = .ok profilo ∧
      ComeInserito uid dati profilo ∧ profilo.primoAccesso = !chiamato := by
  have read : ProfiloUtente.fromFirestore uid (documento uid dati chiamato) = .ok
      { id := uid, nome := dati.nome, cognome := dati.cognome, matricola := dati.matricola,
        dataDiNascita := (Timestamp.fromMillisecondsSinceEpoch
          dati.dataNascita.millisecondsSinceEpoch).toDate,
        sesso := .named (some (.string dati.sesso.toShortString)), email := dati.email,
        primoAccesso := !chiamato, immagine := none, amici := [] } := by
    cases chiamato <;> rfl
  exact ⟨_, read, ⟨rfl, rfl, rfl, rfl, rfl, named_toShortString dati.sesso,
    Timestamp.millisecondsSinceEpoch_toDate _, rfl, rfl⟩, rfl⟩

theorem primoAccessoDi_documento (uid : String) (dati : DatiRegistrazione) (chiamato : Bool) :
    RepositoryUtente.primoAccessoDi (some (documento uid dati chiamato)) = .ok (!chiamato) := by
  cases chiamato <;> rfl

theorem documento_writes (uid : String) (dati : DatiRegistrazione) (chiamato : Bool) :
    (documento uid dati chiamato).writes [("primoAccesso", .value (.bool false))] =
      documento uid dati true := by
  cases chiamato with
  | false => rfl
  | true => simp [documento, FieldWrite.apply]

theorem stored_of_signUp {s : SistemaConPosta} (valid : validateRegistrationField dati = none)
    (registered : ((ViewModelUtente.signUp guasti uid dati).exec s).2.moduli.registrazioneRiuscita =
      true) :
    ((ViewModelUtente.signUp guasti uid dati).exec s).2.cloud.get .utenti uid =
      some (documento uid dati false) := by
  cases signUp_esito guasti uid dati s with
  | nonValida invalid final => cases valid.symm.trans invalid
  | rifiutata _ _ final =>
    rw [final] at registered
    cases registered
  | senzaProfilo _ _ _ final =>
    rw [final] at registered
    cases registered
  | riuscita _ _ _ final =>
    rw [final]
    exact Store.get_put_self _ _ _ _

theorem get_of_updateFirstLogin {s t : Sistema} {guasto : Option Thrown} {d : Document}
    (current : s.viewModel.utenteCorrente.map ProfiloUtente.id = some uid)
    (stored : s.cloud.get .utenti uid = some d)
    (updated : (ViewModelUtente.updateFirstLogin guasto).exec s = (.ok (), t)) :
    t.cloud.get .utenti uid = some (d.writes [("primoAccesso", .value (.bool false))]) := by
  obtain ⟨profilo, signed, rfl⟩ := Option.map_eq_some_iff.mp current
  unfold ViewModelUtente.updateFirstLogin RepositoryUtente.updateFirstLogin updateDoc at updated
  rw [Action.exec_bind_of_ok (exec_stato s), signed] at updated
  cases guasto with
  | some e => cases updated
  | none =>
    simp only at updated
    rw [Action.exec_bind_of_ok (exec_chiama_none s), Action.exec_bind_of_ok (exec_stato s),
      stored] at updated
    cases updated
    exact Store.get_put_self _ _ _ _

theorem Seguito.stored {before after : Bool × Sistema} (step : Seguito uid before after)
    (stored : before.2.cloud.get .utenti uid = some (documento uid dati before.1)) :
    after.2.cloud.get .utenti uid = some (documento uid dati after.1) := by
  cases step with
  | altro same => exact same.trans stored
  | updateFirstLogin current updated =>
    rw [get_of_updateFirstLogin current stored updated, documento_writes]

theorem stored_of_run {before after : Bool × Sistema}
    (run : Relation.ReflTransGen (Seguito uid) before after)
    (stored : before.2.cloud.get .utenti uid = some (documento uid dati before.1)) :
    after.2.cloud.get .utenti uid = some (documento uid dati after.1) := by
  induction run with
  | refl => exact stored
  | tail _ step ih => exact step.stored ih

end

/-- What was entered at the registration is fetched in every state reached since, and the
first login lasts until `updateFirstLogin` has returned. -/
theorem registered_profile_comes_back {guasti : GuastiRegistrazione} {uid : String}
    {dati : DatiRegistrazione} {s : SistemaConPosta} {chiamato : Bool} {t : Sistema}
    (valid : validateRegistrationField dati = none)
    (registered : ((ViewModelUtente.signUp guasti uid dati).exec s).2.moduli.registrazioneRiuscita =
      true)
    (run : Relation.ReflTransGen (Seguito uid)
      (false, ((ViewModelUtente.signUp guasti uid dati).exec s).2.toSistema) (chiamato, t)) :
    (∃ profilo, ComeInserito uid dati profilo ∧ profilo.primoAccesso = !chiamato ∧
      ∀ guasti : Guasti, guasti.profilo = none →
        (ViewModelUtente.fetchUserProfile guasti uid).exec t =
          (.ok (), { t with viewModel.utenteCorrente := some profilo })) ∧
    (RepositoryUtente.isFirstLogin none uid).exec t = (.ok (!chiamato), t) := by
  have stored := stored_of_run run (stored_of_signUp valid registered)
  constructor
  · obtain ⟨profilo, read, entered, first⟩ := fromFirestore_documento uid dati chiamato
    refine ⟨profilo, entered, first, fun guasti works => ?_⟩
    rw [exec_fetchUserProfile, works, profiloLetto, stored, Option.bind_some, read]
    rfl
  · rw [exec_isFirstLogin, primoAccessoLetto, stored, primoAccessoDi_documento]

theorem registered_profile_comes_back_carla : ∃ t,
    Relation.ReflTransGen (Seguito "c")
      (false, ((ViewModelUtente.signUp senzaGuasti "c" datiDiCarla).exec nessuno).2.toSistema)
      (true, t) ∧
    (∃ profilo, ComeInserito "c" datiDiCarla profilo ∧ profilo.primoAccesso = false ∧
      ∀ guasti : Guasti, guasti.profilo = none →
        (ViewModelUtente.fetchUserProfile guasti "c").exec t =
          (.ok (), { t with viewModel.utenteCorrente := some profilo })) ∧
    (RepositoryUtente.isFirstLogin none "c").exec t = (.ok false, t) := by
  have valid : validateRegistrationField datiDiCarla = none := by decide
  have registered : ((ViewModelUtente.signUp senzaGuasti "c" datiDiCarla).exec
      nessuno).2.moduli.registrazioneRiuscita = true := by decide
  have fetched : Seguito "c" (false, ((ViewModelUtente.signUp senzaGuasti "c" datiDiCarla).exec
      nessuno).2.toSistema) (false, ((ViewModelUtente.fetchUserProfile .nessuno "c").exec
        ((ViewModelUtente.signUp senzaGuasti "c" datiDiCarla).exec nessuno).2.toSistema).2) :=
    .altro rfl
  have updated : (ViewModelUtente.updateFirstLogin none).exec
      ((ViewModelUtente.fetchUserProfile .nessuno "c").exec
        ((ViewModelUtente.signUp senzaGuasti "c" datiDiCarla).exec nessuno).2.toSistema).2 =
      (.ok (), _) := rfl
  have run := Relation.ReflTransGen.tail (.single fetched) (.updateFirstLogin rfl updated)
  exact ⟨_, run, registered_profile_comes_back valid registered run⟩

end TeamSync.Session
