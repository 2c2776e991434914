import TeamSync.View.NavGraph

/-! What leads behind the login, along a run of one device. -/

set_option autoImplicit false

namespace TeamSync.Navigazione

open Effects Session ViewModelUtente

/-! ## The forms -/

def Riuscito (guasti : Guasti) (email password : String) (s : Sistema) : Prop :=
  ∃ uid account, accettato guasti email password s = some (uid, account) ∧
    guasti.reload = none ∧ account.emailVerified = true ∧
    ¬ PrimoAccessoIlleggibile guasti.primoAccesso s uid

def Credenziali (s : SistemaConPosta) (uid : String) : (attesa : Attesa) → attesa.Risposta → Prop
  | .login email password, guasti =>
    ∃ account, accettato guasti email password s.toSistema = some (uid, account)
  | .signUp dati, (guasti, nuovo) =>
    uid = nuovo ∧ validateRegistrationField dati = none ∧ ¬ Rifiutata guasti dati s
  | _, _ => False

def Riesce (s : SistemaConPosta) : (attesa : Attesa) → attesa.Risposta → Prop
  | .login email password, guasti => Riuscito guasti email password s.toSistema
  | _, _ => False

/-- The flag of a login is set by a login that succeeds, and never taken down. -/
theorem login_flag_iff (guasti : Guasti) (email password : String) (s : Sistema) :
    ((ViewModelUtente.login guasti email password).exec s).2.viewModel.loginSuccessful = true ↔
      s.viewModel.loginSuccessful = true ∨ Riuscito guasti email password s := by
  cases login_esito guasti email password s with
  | rifiutato refused final =>
    rw [final]
    simp [Riuscito, refused]
  | nonVerificato accepted unverified final =>
    rw [final]
    refine (or_iff_left ?_).symm
    rintro ⟨uid, account, same, reload, verified, -⟩
    cases accepted.symm.trans same
    exact unverified ⟨reload, verified⟩
  | interrotto accepted verified failed final =>
    rw [final]
    refine (or_iff_left ?_).symm
    rintro ⟨uid, account, same, -, -, readable⟩
    cases accepted.symm.trans same
    exact readable (illeggibile_iff.mpr ⟨_, failed⟩)
  | riuscito accepted verified read final =>
    rw [final]
    refine iff_of_true rfl (.inr ⟨_, _, accepted, verified.1, verified.2, fun unreadable => ?_⟩)
    obtain ⟨e, failed⟩ := illeggibile_iff.mp unreadable
    cases read.symm.trans failed

theorem login_user {guasti : Guasti} {email password : String} {s : Sistema} {user : User}
    (signed : ((ViewModelUtente.login guasti email password).exec s).2.auth.currentUser =
      some user) : s.auth.currentUser = some user ∨
    ∃ account, accettato guasti email password s = some (user.uid, account) := by
  cases login_esito guasti email password s with
  | rifiutato refused final =>
    rw [final] at signed
    exact .inl signed
  | nonVerificato accepted unverified final =>
    rw [final] at signed
    cases signed
    exact .inr ⟨_, accepted⟩
  | interrotto accepted verified failed final =>
    rw [final] at signed
    cases signed
    exact .inr ⟨_, accepted⟩
  | riuscito accepted verified read final =>
    rw [final] at signed
    cases signed
    exact .inr ⟨_, accepted⟩

theorem signUp_user {guasti : GuastiRegistrazione} {uid : String} {dati : DatiRegistrazione}
    {s : SistemaConPosta} {user : User}
    (signed : ((ViewModelUtente.signUp guasti uid dati).exec s).2.auth.currentUser = some user) :
    s.auth.currentUser = some user ∨ user.uid = uid ∧ validateRegistrationField dati = none ∧
      ¬ Rifiutata guasti dati s := by
  cases signUp_esito guasti uid dati s with
  | nonValida invalid final =>
    rw [final] at signed
    exact .inl signed
  | rifiutata valid refused final =>
    rw [final] at signed
    exact .inl signed
  | senzaProfilo valid accepted failing final =>
    rw [final] at signed
    cases signed
    exact .inr ⟨rfl, valid, accepted⟩
  | riuscita valid accepted works final =>
    rw [final] at signed
    cases signed
    exact .inr ⟨rfl, valid, accepted⟩

theorem signUp_viewModel (guasti : GuastiRegistrazione) (uid : String) (dati : DatiRegistrazione)
    (s : SistemaConPosta) :
    ((ViewModelUtente.signUp guasti uid dati).exec s).2.viewModel = s.viewModel ∧
    ((ViewModelUtente.signUp guasti uid dati).exec s).2.moduli.resetPasswordRiuscito =
      s.moduli.resetPasswordRiuscito := by
  cases signUp_esito guasti uid dati s with
  | nonValida invalid final => simp [final]
  | rifiutata valid refused final => simp [final]
  | senzaProfilo valid accepted failing final => simp [final, iscritto]
  | riuscita valid accepted works final => simp [final, iscritto]

/-! ## The graphs -/

section
variable {d : Dispositivo} {chiave : Nat} {g' : NavGraph}

theorem grafo_cases (d : Dispositivo) (chiave : Nat) :
    (d.grafo chiave ∈ d.grafi ∧ (d.grafo chiave).chiave = chiave) ∨
      d.grafo chiave = { NavGraph.nuovo chiave with pagine := [] } ∧
        ∀ g ∈ d.grafi, g.chiave ≠ chiave := by
  rw [Dispositivo.grafo]
  cases found : d.grafi.find? fun g => g.chiave = chiave with
  | some g =>
    refine .inl ⟨List.mem_of_find?_eq_some found, ?_⟩
    simpa using List.find?_some found
  | none => exact .inr ⟨rfl, by simpa using List.find?_eq_none.mp found⟩

theorem mem_esterni {g : NavGraph} {esterni : List NavGraph}
    (split : (d.grafi.dropWhile fun g => g.chiave ≠ chiave) = g :: esterni) :
    g ∈ d.grafi ∧ g.chiave = chiave ∧ ∀ h ∈ esterni, h ∈ d.grafi := by
  have inside := (List.dropWhile_sublist (l := d.grafi) fun g => g.chiave ≠ chiave).subset
  rw [split] at inside
  have first := List.head_dropWhile_not (fun g : NavGraph => decide (g.chiave ≠ chiave))
    (l := d.grafi) (split ▸ List.cons_ne_nil _ _)
  simp only [split, List.head_cons] at first
  exact ⟨inside List.mem_cons_self, by simpa using first,
    fun h member => inside (List.mem_cons_of_mem _ member)⟩

theorem mem_naviga {cambia : NavGraph → NavGraph} (member : g' ∈ (d.naviga chiave cambia).grafi) :
    g' ∈ d.grafi ∨ ∃ g ∈ d.grafi, g.chiave = chiave ∧ g' = cambia g := by
  unfold Dispositivo.naviga at member
  split at member
  · next g esterni split =>
    obtain ⟨inside, same, others⟩ := mem_esterni split
    rcases List.mem_cons.mp member with rfl | outer
    · exact .inr ⟨g, inside, same, rfl⟩
    · exact .inl (others g' outer)
  · exact .inl member

theorem mem_dopo {s : SistemaConPosta} (member : g' ∈ (d.dopo chiave s).grafi) :
    g' ∈ d.grafi ∧ g'.chiave ≠ chiave ∨ ∃ g ∈ d.grafi, g.chiave = chiave ∧
      g' = { g with viewModel := s.viewModel, moduli := s.moduli } := by
  obtain ⟨g, inside, rfl⟩ := List.mem_map.mp member
  by_cases same : g.chiave = chiave
  · exact .inr ⟨g, inside, same, if_pos same⟩
  · rw [if_neg same]
    exact .inl ⟨inside, same⟩

theorem mem_pushAndRemoveUntil (member : g' ∈ (d.pushAndRemoveUntil chiave).grafi) :
    g' ∈ d.grafi ∨
      (g' = .nuovo d.prossima ∧ (d.pushAndRemoveUntil chiave).prossima = d.prossima + 1) ∨
      ∃ g ∈ d.grafi, g.chiave = chiave ∧ g' = { g with pagine := [] } := by
  unfold Dispositivo.pushAndRemoveUntil at member ⊢
  split at member
  · next g esterni split =>
    obtain ⟨inside, same, others⟩ := mem_esterni split
    rcases List.mem_cons.mp member with rfl | outer
    · exact .inr (.inl ⟨rfl, rfl⟩)
    rcases List.mem_cons.mp outer with rfl | outer
    · exact .inr (.inr ⟨g, inside, same, rfl⟩)
    · exact .inl (others g' outer)
  · exact .inl member

end

/-! ## The invariant -/

/-- The graph of a navigator, where `entrato` says through which ones a login has
succeeded and `noto` whose credentials have been given. -/
structure GrafoSicuro (entrato : Nat → Prop) (noto : String → Prop) (prossima : Nat)
    (g : NavGraph) : Prop where
  vecchio : g.chiave < prossima
  flag : g.viewModel.loginSuccessful = true ↔ entrato g.chiave
  pagine : ∀ schermata ∈ g.pagine, schermata.riservata = true → entrato g.chiave
  proprio : ∀ uid, g.utenteCorrenteId = some (some uid) → noto uid
  registrazione : g.moduli.registrazioneRiuscita = false
  reset : g.moduli.resetPasswordRiuscito = false

def riservata : Attesa → Bool
  | .login _ _ | .signUp _ | .resetPassword _ => false
  | _ => true

structure Sicuro (entrato : Nat → Prop) (noto : String → Prop) (d : Dispositivo) : Prop where
  grafi : ∀ g ∈ d.grafi, GrafoSicuro entrato noto d.prossima g
  attese : ∀ attesa ∈ d.attese, attesa.1 < d.prossima ∧
    (riservata attesa.2 = true → entrato attesa.1)
  utente : ∀ user, d.auth.currentUser = some user → noto user.uid
  vecchi : ∀ chiave, entrato chiave → chiave < d.prossima

section
variable {entrato : Nat → Prop} {noto : String → Prop} {prossima : Nat} {g : NavGraph}
  {user : Option User} {schermata : Schermata}

theorem GrafoSicuro.mostra (holds : GrafoSicuro entrato noto prossima g)
    (known : ∀ u, user = some u → noto u.uid)
    (permitted : schermata.riservata = true → entrato g.chiave) {sotto : List Schermata}
    (others : ∀ s ∈ sotto, s ∈ g.pagine) :
    GrafoSicuro entrato noto prossima
      { g.costruisce user schermata with pagine := schermata :: sotto } := by
  have pages : ∀ s ∈ schermata :: sotto, s.riservata = true → entrato g.chiave :=
    List.forall_mem_cons.mpr ⟨permitted, fun s member => holds.pagine s (others s member)⟩
  unfold NavGraph.costruisce
  split
  · refine ⟨holds.vecchio, holds.flag, pages, fun uid same => ?_, holds.registrazione, holds.reset⟩
    obtain ⟨u, signed, rfl⟩ := Option.map_eq_some_iff.mp (Option.some.inj same)
    exact known u signed
  · exact { holds with pagine := pages }

theorem GrafoSicuro.pop (holds : GrafoSicuro entrato noto prossima g) :
    GrafoSicuro entrato noto prossima g.pop := by
  unfold NavGraph.pop
  split
  · next pages =>
    refine { holds with pagine := fun s member => holds.pagine s ?_ }
    rw [pages]
    exact List.mem_cons_of_mem _ member
  · exact holds

/-- Where a move leads behind the login, a login has succeeded. -/
def Concessa (entrato : Prop) : Mossa → Prop
  | .pushNamed schermata | .pushReplacementNamed schermata => schermata.riservata = true → entrato
  | .pop => True
  | .chiama attesa => riservata attesa = true → entrato

variable {d : Dispositivo} {chiave : Nat}

theorem Sicuro.naviga (holds : Sicuro entrato noto d) {cambia : NavGraph → NavGraph}
    (safe : ∀ g, GrafoSicuro entrato noto d.prossima g → g.chiave = chiave →
      GrafoSicuro entrato noto d.prossima (cambia g)) :
    Sicuro entrato noto (d.naviga chiave cambia) := by
  have graphs : ∀ g ∈ (d.naviga chiave cambia).grafi, GrafoSicuro entrato noto d.prossima g := by
    intro g member
    rcases mem_naviga member with inside | ⟨h, inside, same, rfl⟩
    · exact holds.grafi g inside
    · exact safe h (holds.grafi h inside) same
  unfold Dispositivo.naviga at graphs ⊢
  split
  · next split =>
    rw [split] at graphs
    exact { holds with grafi := graphs }
  · exact holds

theorem Sicuro.mossa (holds : Sicuro entrato noto d) (old : chiave < d.prossima) {mossa : Mossa}
    (permitted : Concessa (entrato chiave) mossa) : Sicuro entrato noto (d.mossa chiave mossa) := by
  cases mossa with
  | pushNamed schermata =>
    apply holds.naviga
    intro g safe same
    exact safe.mostra holds.utente (same ▸ permitted) fun _ member => member
  | pushReplacementNamed schermata =>
    apply holds.naviga
    intro g safe same
    exact safe.mostra holds.utente (same ▸ permitted) fun _ member => List.mem_of_mem_tail member
  | pop => exact holds.naviga fun g safe _ => safe.pop
  | chiama attesa =>
    exact { holds with attese := List.forall_mem_cons.mpr ⟨⟨old, permitted⟩, holds.attese⟩ }

theorem naviga_prossima (cambia : NavGraph → NavGraph) :
    (d.naviga chiave cambia).prossima = d.prossima := by
  unfold Dispositivo.naviga
  split <;> rfl

@[simp] theorem mossa_prossima (mossa : Mossa) :
    (d.mossa chiave mossa).prossima = d.prossima := by
  cases mossa <;> simp [Dispositivo.mossa, naviga_prossima]

theorem mosse_concesse (utenteCorrente : Option ProfiloUtente) (gesto : Gesto)
    (permitted : schermata.riservata = true → entrato chiave) :
    ∀ mossa ∈ schermata.mosse utenteCorrente gesto, Concessa (entrato chiave) mossa := by
  unfold Schermata.mosse
  split <;> simp_all [Concessa, riservata, Schermata.riservata]

theorem Sicuro.mosse (holds : Sicuro entrato noto d) (old : chiave < d.prossima)
    {mosse : List Mossa} (permitted : ∀ mossa ∈ mosse, Concessa (entrato chiave) mossa) :
    Sicuro entrato noto (mosse.foldl (fun d m => d.mossa chiave m) d) := by
  induction mosse generalizing d with
  | nil => exact holds
  | cons mossa rest ih =>
    obtain ⟨first, others⟩ := List.forall_mem_cons.mp permitted
    exact ih (holds.mossa old first) (by simpa using old) others

theorem Sicuro.tocca (holds : Sicuro entrato noto d) (gesto : Gesto) :
    Sicuro entrato noto (d.tocca gesto) := by
  unfold Dispositivo.tocca
  split
  · next g others graphs =>
    have safe := holds.grafi g (graphs ▸ List.mem_cons_self)
    split
    · next schermata sotto pages =>
      apply holds.mosse safe.vecchio
      exact mosse_concesse _ gesto (safe.pagine schermata (pages ▸ List.mem_cons_self))
    · exact holds
  · exact holds

/-! ### The end of a call -/

theorem Sicuro.weaken {entrato' : Nat → Prop} {noto' : String → Prop}
    (holds : Sicuro entrato noto d) (same : ∀ j, entrato' j ↔ entrato j)
    (known : ∀ uid, noto uid → noto' uid) : Sicuro entrato' noto' d where
  grafi g member := by
    have safe := holds.grafi g member
    exact ⟨safe.vecchio, safe.flag.trans (same _).symm,
      fun s shown reserved => (same _).mpr (safe.pagine s shown reserved),
      fun uid own => known uid (safe.proprio uid own), safe.registrazione, safe.reset⟩
  attese attesa member := (holds.attese attesa member).imp_right fun reserved started =>
    (same _).mpr (reserved started)
  utente user signed := known user.uid (holds.utente user signed)
  vecchi j entered := holds.vecchi j ((same j).mp entered)

theorem Sicuro.entrato_of_flag (holds : Sicuro entrato noto d)
    (flag : (d.grafo chiave).viewModel.loginSuccessful = true) : entrato chiave := by
  rcases grafo_cases d chiave with ⟨inside, same⟩ | ⟨gone, -⟩
  · have entered := (holds.grafi _ inside).flag.mp flag
    rwa [same] at entered
  · rw [gone] at flag
    cases flag

theorem Sicuro.flag_iff (holds : Sicuro entrato noto d)
    (present : ∃ g ∈ d.grafi, g.chiave = chiave) :
    (d.grafo chiave).viewModel.loginSuccessful = true ↔ entrato chiave := by
  rcases grafo_cases d chiave with ⟨inside, same⟩ | ⟨-, gone⟩
  · rw [(holds.grafi _ inside).flag, same]
  · obtain ⟨g, inside, same⟩ := present
    exact absurd same (gone g inside)

theorem Sicuro.moduli (holds : Sicuro entrato noto d) (chiave : Nat) :
    (d.grafo chiave).moduli.registrazioneRiuscita = false ∧
      (d.grafo chiave).moduli.resetPasswordRiuscito = false := by
  rcases grafo_cases d chiave with ⟨inside, -⟩ | ⟨gone, -⟩
  · exact ⟨(holds.grafi _ inside).registrazione, (holds.grafi _ inside).reset⟩
  · rw [gone]
    exact ⟨rfl, rfl⟩

theorem Sicuro.dopo (holds : Sicuro entrato noto d) (old : chiave < d.prossima)
    (s : SistemaConPosta) {ora : Prop} (prova : String → Prop)
    (flag : s.viewModel.loginSuccessful = true ↔
      (d.grafo chiave).viewModel.loginSuccessful = true ∨ ora)
    (user : ∀ u, s.auth.currentUser = some u → d.auth.currentUser = some u ∨ prova u.uid)
    (registrazione : s.moduli.registrazioneRiuscita = false)
    (reset : s.moduli.resetPasswordRiuscito = false) :
    Sicuro (fun j => entrato j ∨ j = chiave ∧ ora) (fun uid => noto uid ∨ prova uid)
      (d.dopo chiave s) where
  grafi g member := by
    rcases mem_dopo member with ⟨inside, other⟩ | ⟨h, inside, same, rfl⟩
    · have safe := holds.grafi g inside
      refine ⟨safe.vecchio, safe.flag.trans ?_,
        fun s shown reserved => .inl (safe.pagine s shown reserved),
        fun uid own => .inl (safe.proprio uid own), safe.registrazione, safe.reset⟩
      simp [other]
    · have safe := holds.grafi h inside
      refine ⟨safe.vecchio, flag.trans ?_,
        fun s shown reserved => .inl (safe.pagine s shown reserved),
        fun uid own => .inl (safe.proprio uid own), registrazione, reset⟩
      simp [holds.flag_iff ⟨h, inside, same⟩, same]
  attese attesa member := (holds.attese attesa member).imp_right fun reserved started =>
    .inl (reserved started)
  utente u signed := (user u signed).imp_left (holds.utente u)
  vecchi j entered := by
    rcases entered with before | ⟨rfl, -⟩
    · exact holds.vecchi j before
    · exact old

theorem Sicuro.pushAndRemoveUntil (holds : Sicuro entrato noto d) :
    Sicuro entrato noto (d.pushAndRemoveUntil chiave) := by
  have later : d.prossima ≤ (d.pushAndRemoveUntil chiave).prossima := by
    unfold Dispositivo.pushAndRemoveUntil
    split
    · exact Nat.le_succ _
    · exact Nat.le_refl _
  have graphs : ∀ g ∈ (d.pushAndRemoveUntil chiave).grafi,
      GrafoSicuro entrato noto (d.pushAndRemoveUntil chiave).prossima g := by
    intro g member
    rcases mem_pushAndRemoveUntil member with inside | ⟨rfl, next⟩ | ⟨h, inside, -, rfl⟩
    · have safe := holds.grafi g inside
      exact { safe with vecchio := Nat.lt_of_lt_of_le safe.vecchio later }
    · -- no login has succeeded yet through a graph that is new
      have fresh : ¬ entrato d.prossima := fun entered => Nat.lt_irrefl _ (holds.vecchi _ entered)
      refine ⟨next ▸ Nat.lt_succ_self _, ?_, ?_, fun uid own => ?_, rfl, rfl⟩
      · exact iff_of_false (by simp [NavGraph.nuovo, ViewModelUtente.nuovo]) fresh
      · simp [NavGraph.nuovo, Schermata.riservata]
      · cases own
    · have safe := holds.grafi h inside
      exact { safe with
        vecchio := Nat.lt_of_lt_of_le safe.vecchio later
        pagine := List.forall_mem_nil _ }
  unfold Dispositivo.pushAndRemoveUntil at graphs later ⊢
  split
  · next split =>
    rw [split] at graphs
    exact ⟨graphs, fun attesa member => ⟨Nat.lt_succ_of_lt (holds.attese attesa member).1,
      (holds.attese attesa member).2⟩, holds.utente, fun j entered =>
      Nat.lt_succ_of_lt (holds.vecchi j entered)⟩
  · exact holds

theorem conclude_login (email password : String) (guasti : Guasti) :
    d.conclude chiave (.login email password) guasti =
      let s := (Tentativo.login guasti email password).esegui (d.sistema chiave)
      if s.viewModel.loginSuccessful then
        (d.dopo chiave s).mossa chiave (.pushReplacementNamed
          (if s.viewModel.firstLogin then .benvenuto else .ituoiProgetti))
      else d.dopo chiave s := rfl

theorem conclude_signUp_of_up {dati : DatiRegistrazione} {guasti : GuastiRegistrazione}
    {uid : String} (up : ((ViewModelUtente.signUp guasti uid dati).exec
      (d.sistema chiave)).2.moduli.registrazioneRiuscita = true) :
    d.conclude chiave (.signUp dati) (guasti, uid) =
      (d.dopo chiave { ((ViewModelUtente.signUp guasti uid dati).exec (d.sistema chiave)).2 with
        moduli.registrazioneRiuscita := false }).mossa chiave
          (.pushReplacementNamed .verificaEmail) := if_pos up

theorem conclude_signUp_of_down {dati : DatiRegistrazione} {guasti : GuastiRegistrazione}
    {uid : String} (down : ((ViewModelUtente.signUp guasti uid dati).exec
      (d.sistema chiave)).2.moduli.registrazioneRiuscita = false) :
    d.conclude chiave (.signUp dati) (guasti, uid) =
      d.dopo chiave ((ViewModelUtente.signUp guasti uid dati).exec (d.sistema chiave)).2 :=
  if_neg (down ▸ Bool.false_ne_true)

theorem conclude_resetPassword_of_up {email : String} {guasto : Option Eccezione}
    (up : ((ViewModelUtente.resetPassword guasto email).exec
      (d.sistema chiave)).2.moduli.resetPasswordRiuscito = true) :
    d.conclude chiave (.resetPassword email) guasto =
      (d.dopo chiave { ((ViewModelUtente.resetPassword guasto email).exec (d.sistema chiave)).2 with
        moduli.resetPasswordRiuscito := false }).mossa chiave
          (.pushReplacementNamed .login) := if_pos up

theorem conclude_resetPassword_of_down {email : String} {guasto : Option Eccezione}
    (down : ((ViewModelUtente.resetPassword guasto email).exec
      (d.sistema chiave)).2.moduli.resetPasswordRiuscito = false) :
    d.conclude chiave (.resetPassword email) guasto =
      d.dopo chiave ((ViewModelUtente.resetPassword guasto email).exec (d.sistema chiave)).2 :=
  if_neg (down ▸ Bool.false_ne_true)

theorem conclude_logout (guasti : Guasti) :
    d.conclude chiave .logout guasti =
      if guasti.signOut = none then
        { d with auth.currentUser := none }.pushAndRemoveUntil chiave
      else d := by
  rw [Dispositivo.conclude]
  unfold ViewModelUtente.logout RepositoryUtente.logout FirebaseAuth.signOut
  cases guasti.signOut <;> rfl

theorem Sicuro.senzaLogin (holds : Sicuro entrato noto d) {attesa : Attesa}
    {risposta : attesa.Risposta} {sistema : SistemaConPosta}
    (noLogin : ¬ Riesce sistema attesa risposta) :
    Sicuro (fun j => entrato j ∨ j = chiave ∧ Riesce sistema attesa risposta)
      (fun uid => noto uid ∨ Credenziali sistema uid attesa risposta) d :=
  holds.weaken (fun j => by simp [noLogin]) fun uid => .inl

theorem Sicuro.finisceLogin (holds : Sicuro entrato noto d) (old : chiave < d.prossima)
    (email password : String) (guasti : Guasti) :
    Sicuro
      (fun j => entrato j ∨ j = chiave ∧ Riesce (d.sistema chiave) (.login email password) guasti)
      (fun uid => noto uid ∨ Credenziali (d.sistema chiave) uid (.login email password) guasti)
      (d.conclude chiave (.login email password) guasti) := by
  let s := (Tentativo.login guasti email password).esegui (d.sistema chiave)
  have reached : s = { d.sistema chiave with toSistema :=
      ((ViewModelUtente.login guasti email password).exec (d.sistema chiave).toSistema).2 } :=
    exec_suSistema _ _
  have flag : s.viewModel.loginSuccessful = true ↔
      (d.grafo chiave).viewModel.loginSuccessful = true ∨
        Riesce (d.sistema chiave) (.login email password) guasti := by
    rw [reached]
    exact login_flag_iff guasti email password (d.sistema chiave).toSistema
  have after := holds.dopo old s
    (fun uid => Credenziali (d.sistema chiave) uid (.login email password) guasti) flag
    (fun u signed => login_user (by rwa [reached] at signed))
    (reached ▸ (holds.moduli chiave).1) (reached ▸ (holds.moduli chiave).2)
  rw [conclude_login]
  simp only
  split
  · next up =>
    refine after.mossa old fun _ => (flag.mp up).imp holds.entrato_of_flag ?_
    exact fun succeeds => ⟨rfl, succeeds⟩
  · exact after

theorem Sicuro.finisceSignUp (holds : Sicuro entrato noto d) (old : chiave < d.prossima)
    (dati : DatiRegistrazione) (guasti : GuastiRegistrazione) (uid : String) :
    Sicuro
      (fun j => entrato j ∨ j = chiave ∧ Riesce (d.sistema chiave) (.signUp dati) (guasti, uid))
      (fun u => noto u ∨ Credenziali (d.sistema chiave) u (.signUp dati) (guasti, uid))
      (d.conclude chiave (.signUp dati) (guasti, uid)) := by
  obtain ⟨viewModel, reset⟩ := signUp_viewModel guasti uid dati (d.sistema chiave)
  have flag : ((ViewModelUtente.signUp guasti uid dati).exec
      (d.sistema chiave)).2.viewModel.loginSuccessful = true ↔
      (d.grafo chiave).viewModel.loginSuccessful = true ∨ False := by
    rw [viewModel, or_false]
    rfl
  have lowered := reset.trans (holds.moduli chiave).2
  let prova := fun u => Credenziali (d.sistema chiave) u (.signUp dati) (guasti, uid)
  have free : Concessa (entrato chiave ∨ chiave = chiave ∧ False)
      (.pushReplacementNamed .verificaEmail) := by simp [Concessa, Schermata.riservata]
  cases up : ((ViewModelUtente.signUp guasti uid dati).exec
    (d.sistema chiave)).2.moduli.registrazioneRiuscita with
  | true =>
    rw [conclude_signUp_of_up up]
    let s := ((ViewModelUtente.signUp guasti uid dati).exec (d.sistema chiave)).2
    let s' : SistemaConPosta := { s with moduli.registrazioneRiuscita := false }
    have after := holds.dopo old s' prova flag (fun u => signUp_user) rfl lowered
    exact after.mossa old free
  | false =>
    rw [conclude_signUp_of_down up]
    exact holds.dopo old _ prova flag (fun u => signUp_user) up lowered

theorem Sicuro.finisceReset (holds : Sicuro entrato noto d) (old : chiave < d.prossima)
    (email : String) (guasto : Option Eccezione) :
    Sicuro entrato noto (d.conclude chiave (.resetPassword email) guasto) := by
  obtain ⟨sistema, registrazione⟩ := resetPassword_viewModel guasto email (d.sistema chiave)
  have flag : ((ViewModelUtente.resetPassword guasto email).exec
      (d.sistema chiave)).2.viewModel.loginSuccessful = true ↔
      (d.grafo chiave).viewModel.loginSuccessful = true ∨ False := by
    rw [sistema, or_false]
    rfl
  have lowered := registrazione.trans (holds.moduli chiave).1
  have user : ∀ u, ((ViewModelUtente.resetPassword guasto email).exec
      (d.sistema chiave)).2.auth.currentUser = some u → d.auth.currentUser = some u ∨ False := by
    rw [sistema]
    exact fun u => .inl
  have keep : ∀ {d' : Dispositivo}, Sicuro (fun j => entrato j ∨ j = chiave ∧ False)
      (fun uid => noto uid ∨ False) d' → Sicuro entrato noto d' := fun after => by
    simpa using after
  have free : Concessa (entrato chiave) (.pushReplacementNamed .login) := by
    simp [Concessa, Schermata.riservata]
  cases up : ((ViewModelUtente.resetPassword guasto email).exec
    (d.sistema chiave)).2.moduli.resetPasswordRiuscito with
  | true =>
    rw [conclude_resetPassword_of_up up]
    let s := ((ViewModelUtente.resetPassword guasto email).exec (d.sistema chiave)).2
    let s' : SistemaConPosta := { s with moduli.resetPasswordRiuscito := false }
    have after := keep (holds.dopo old s' _ flag user lowered rfl)
    exact after.mossa old free
  | false =>
    rw [conclude_resetPassword_of_down up]
    exact keep (holds.dopo old _ _ flag user lowered up)

theorem Sicuro.finisceRiservata (holds : Sicuro entrato noto d) (old : chiave < d.prossima)
    {attesa : Attesa} (risposta : attesa.Risposta) (reserved : riservata attesa = true)
    (entered : entrato chiave) : Sicuro entrato noto (d.conclude chiave attesa risposta) := by
  have home : Concessa (entrato chiave) (.pushReplacementNamed .ituoiProgetti) := fun _ => entered
  cases attesa with
  | login email password => cases reserved
  | signUp dati => cases reserved
  | resetPassword email => cases reserved
  | updateFirstLogin userId =>
    cases userId with
    | none => exact holds.mossa old home
    | some userId =>
      rw [Dispositivo.conclude]
      split
      · next s _ =>
        have stored : Sicuro entrato noto { d with cloud := s.cloud } := { holds with }
        exact stored.mossa old home
      · exact holds
  | logout =>
    rw [conclude_logout]
    split
    · apply Sicuro.pushAndRemoveUntil
      exact { holds with utente := fun u signed => by cases signed }
    · exact holds
  | abbandonaProgetto =>
    cases risposta with
    | none => exact holds.mossa old home
    | some e => exact holds

theorem Sicuro.conclude (holds : Sicuro entrato noto d) (old : chiave < d.prossima)
    (attesa : Attesa) (risposta : attesa.Risposta)
    (permitted : riservata attesa = true → entrato chiave) :
    Sicuro (fun j => entrato j ∨ j = chiave ∧ Riesce (d.sistema chiave) attesa risposta)
      (fun uid => noto uid ∨ Credenziali (d.sistema chiave) uid attesa risposta)
      (d.conclude chiave attesa risposta) := by
  cases attesa with
  | login email password => exact holds.finisceLogin old email password risposta
  | signUp dati => exact holds.finisceSignUp old dati risposta.1 risposta.2
  | resetPassword email => exact (holds.finisceReset old email risposta).senzaLogin id
  | updateFirstLogin userId =>
    exact (holds.finisceRiservata old risposta rfl (permitted rfl)).senzaLogin id
  | logout => exact (holds.finisceRiservata old risposta rfl (permitted rfl)).senzaLogin id
  | abbandonaProgetto =>
    exact (holds.finisceRiservata old risposta rfl (permitted rfl)).senzaLogin id

end

/-! ## Runs -/

/-- A login through this graph has ended, and has succeeded. -/
def LoginRiuscito : Dispositivo × Evento → Nat → Prop
  | (d, .finisce chiave attesa risposta), j =>
    j = chiave ∧ (chiave, attesa) ∈ d.attese ∧ Riesce (d.sistema chiave) attesa risposta
  | _, _ => False

def CredenzialiDate : Dispositivo × Evento → String → Prop
  | (d, .finisce chiave attesa risposta), uid =>
    (chiave, attesa) ∈ d.attese ∧ Credenziali (d.sistema chiave) uid attesa risposta
  | _, _ => False

section
variable {auth : FirebaseAuth} {cloud : Store} {posta : List Mail} {inizio d : Dispositivo}
  {passi : List (Dispositivo × Evento)}

/-- Signed in when the application was started, or with credentials that were given to it. -/
def Noto (auth : FirebaseAuth) (passi : List (Dispositivo × Evento)) (uid : String) : Prop :=
  auth.currentUser.map User.uid = some uid ∨ ∃ passo ∈ passi, CredenzialiDate passo uid

theorem sicuro_avviato (auth : FirebaseAuth) (cloud : Store) (posta : List Mail) :
    Sicuro (fun j => ∃ passo ∈ [], LoginRiuscito passo j) (Noto auth [])
      (.avviato auth cloud posta) where
  grafi g member := by
    cases List.mem_singleton.mp member
    refine ⟨Nat.one_pos, iff_of_false (by simp [NavGraph.nuovo, ViewModelUtente.nuovo]) (by simp),
      ?_, fun uid own => ?_, rfl, rfl⟩
    · simp [NavGraph.nuovo, Schermata.riservata]
    · cases own
  attese := List.forall_mem_nil _
  utente user signed := .inl (by
    change auth.currentUser = some user at signed
    rw [signed]
    rfl)
  vecchi j entered := by simp at entered

theorem Sicuro.esegui (holds : Sicuro (fun j => ∃ passo ∈ passi, LoginRiuscito passo j)
    (Noto auth passi) d) (evento : Evento) :
    Sicuro (fun j => ∃ passo ∈ (d, evento) :: passi, LoginRiuscito passo j)
      (Noto auth ((d, evento) :: passi)) (evento.esegui d) := by
  have known : ∀ uid, Noto auth passi uid → Noto auth ((d, evento) :: passi) uid :=
    fun uid => .imp_right fun ⟨passo, member, given⟩ =>
      ⟨passo, List.mem_cons_of_mem _ member, given⟩
  -- an event that ends no call
  have other : ∀ {d' : Dispositivo}, Sicuro (fun j => ∃ passo ∈ passi, LoginRiuscito passo j)
      (Noto auth passi) d' → (∀ j, ¬ LoginRiuscito (d, evento) j) →
      Sicuro (fun j => ∃ passo ∈ (d, evento) :: passi, LoginRiuscito passo j)
        (Noto auth ((d, evento) :: passi)) d' :=
    fun after noLogin => after.weaken (fun j => by simp [noLogin]) known
  cases evento with
  | tocca gesto => exact other (holds.tocca gesto) fun _ => id
  | altrove accounts cloud => exact other { holds with } fun _ => id
  | finisce chiave attesa risposta =>
    rw [Evento.esegui]
    split
    · next waiting =>
      obtain ⟨old, permitted⟩ := holds.attese _ waiting
      have left : Sicuro (fun j => ∃ passo ∈ passi, LoginRiuscito passo j) (Noto auth passi)
          { d with attese := d.attese.erase (chiave, attesa) } :=
        { holds with attese := fun a member => holds.attese a (List.mem_of_mem_erase member) }
      refine (left.conclude old attesa risposta permitted).weaken (fun j => ?_) fun uid => ?_
      · rw [List.exists_mem_cons_iff, or_comm]
        simp [LoginRiuscito, waiting, Dispositivo.sistema, Dispositivo.grafo]
      · rintro (before | given)
        · exact known uid before
        · exact .inr ⟨_, List.mem_cons_self, waiting, given⟩
    · next none => exact other holds fun j login => none login.2.1

theorem Corsa.sicuro (corsa : Corsa (.avviato auth cloud posta) passi d) :
    Sicuro (fun j => ∃ passo ∈ passi, LoginRiuscito passo j) (Noto auth passi) d := by
  induction corsa with
  | avvio => exact sicuro_avviato auth cloud posta
  | passo evento _ ih => exact ih.esegui evento

end

/-- Whatever is done on the device, and in whatever order its calls end, pages behind the
login are among those of a `NavGraph` only after a login of that `NavGraph` has succeeded
with a verified account, and they show the projects of no account whose credentials have
not been given on the device. -/
theorem behind_the_login {auth : FirebaseAuth} {cloud : Store} {posta : List Mail}
    {passi : List (Dispositivo × Evento)} {d : Dispositivo}
    (corsa : Corsa (.avviato auth cloud posta) passi d) {g : NavGraph} (mounted : g ∈ d.grafi)
    {schermata : Schermata} (shown : schermata ∈ g.pagine)
    (reserved : schermata.riservata = true) :
    (∃ passo ∈ passi, LoginRiuscito passo g.chiave) ∧
      ∀ uid, g.utenteCorrenteId = some (some uid) → Noto auth passi uid := by
  have safe := corsa.sicuro.grafi g mounted
  exact ⟨safe.pagine schermata shown reserved, safe.proprio⟩

/-! ## Anna enters for the first time -/

def acceso : Dispositivo := .avviato inizio.auth inizio.cloud []

def accedeAnna : Evento := .tocca (.accedi "anna@a.it" "segreto")

def entraAnna (chiave : Nat) : Evento :=
  .finisce chiave (.login "anna@a.it" "segreto") Guasti.nessuno

def annaAiProgetti : Evento := .finisce 0 (.updateFirstLogin (some "a")) none

def aiProgetti : Dispositivo :=
  annaAiProgetti.esegui ((Evento.tocca .iniziaOra).esegui
    ((entraAnna 0).esegui (accedeAnna.esegui acceso)))

theorem corsaDiAnna : ∃ passi, Corsa acceso passi aiProgetti :=
  ⟨_, (((Corsa.avvio.passo accedeAnna).passo (entraAnna 0)).passo (.tocca .iniziaOra)).passo
    annaAiProgetti⟩

theorem behind_the_login_anna : ∃ passi g, Corsa acceso passi aiProgetti ∧ g ∈ aiProgetti.grafi ∧
    g.pagine = [.ituoiProgetti] ∧ g.utenteCorrenteId = some (some "a") ∧
    (∃ passo ∈ passi, LoginRiuscito passo g.chiave) ∧ Noto inizio.auth passi "a" := by
  obtain ⟨passi, corsa⟩ := corsaDiAnna
  obtain ⟨g, graphs, pages, user⟩ : ∃ g, aiProgetti.grafi = [g] ∧ g.pagine = [.ituoiProgetti] ∧
      g.utenteCorrenteId = some (some "a") := ⟨_, rfl, rfl, rfl⟩
  have mounted : g ∈ aiProgetti.grafi := graphs ▸ List.mem_singleton_self g
  have shown : Schermata.ituoiProgetti ∈ g.pagine := pages ▸ List.mem_singleton_self _
  obtain ⟨login, known⟩ := behind_the_login corsa mounted shown rfl
  exact ⟨passi, g, corsa, mounted, pages, user, login, known "a" user⟩

end TeamSync.Navigazione
