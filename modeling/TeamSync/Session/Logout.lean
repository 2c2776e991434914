import Mathlib.Data.List.TakeWhile
import TeamSync.Session.Navigation

/-! What a logout closes. The pages that were open before it can only be brought back
by a call that was in flight when it ended.
-/

set_option autoImplicit false

namespace TeamSync.Navigazione

open Effects Session

theorem Corsa.append {inizio mid final : Dispositivo} {prima poi : List (Dispositivo × Evento)}
    (first : Corsa inizio prima mid) (rest : Corsa mid poi final) :
    Corsa inizio (poi ++ prima) final := by
  induction rest with
  | avvio => exact first
  | passo evento _ ih => exact ih.passo evento

structure Spento (p : Nat) (d : Dispositivo) : Prop where
  esterni : ∀ g ∈ d.grafi.tail, g.pagine = []
  vecchi : ∀ g ∈ d.grafi, g.chiave < p → g.pagine = []
  attese : ∀ attesa ∈ d.attese, attesa.1 < p → attesa.2 = .logout
  prossima : p ≤ d.prossima

section
variable {p : Nat} {d : Dispositivo} {chiave : Nat}

theorem tail_of_dropWhile {g : NavGraph} {esterni : List NavGraph}
    (split : (d.grafi.dropWhile fun g => g.chiave ≠ chiave) = g :: esterni) :
    ∀ h ∈ esterni, h ∈ d.grafi.tail := by
  obtain ⟨before, same⟩ := List.dropWhile_suffix (l := d.grafi) fun g => g.chiave ≠ chiave
  rw [split] at same
  rw [← same]
  intro h member
  cases before with
  | nil => exact member
  | cons first rest => simp [member]

theorem Spento.naviga (holds : Spento p d) {cambia : NavGraph → NavGraph}
    (young : p ≤ chiave) (same : ∀ g, (cambia g).chiave = g.chiave) :
    Spento p (d.naviga chiave cambia) := by
  unfold Dispositivo.naviga
  split
  · next g esterni split =>
    obtain ⟨-, isChiave, others⟩ := mem_esterni split
    refine ⟨fun h member => holds.esterni h (tail_of_dropWhile split h member),
      List.forall_mem_cons.mpr ⟨fun old => ?_, fun h member => holds.vecchi h (others h member)⟩,
      holds.attese, holds.prossima⟩
    rw [same, isChiave] at old
    exact absurd old (Nat.not_lt.mpr young)
  · exact holds

theorem Spento.dopo (holds : Spento p d) (s : SistemaConPosta) : Spento p (d.dopo chiave s) where
  esterni g member := by
    rw [Dispositivo.dopo, ← List.map_tail] at member
    obtain ⟨h, inside, rfl⟩ := List.mem_map.mp member
    have empty := holds.esterni h inside
    split <;> exact empty
  vecchi g member old := by
    rcases mem_dopo member with ⟨inside, -⟩ | ⟨h, inside, -, rfl⟩
    · exact holds.vecchi g inside old
    · exact holds.vecchi h inside old
  attese := holds.attese
  prossima := holds.prossima

theorem Spento.pushAndRemoveUntil (holds : Spento p d) :
    Spento p (d.pushAndRemoveUntil chiave) := by
  unfold Dispositivo.pushAndRemoveUntil
  split
  · next g esterni split =>
    have outer : ∀ h ∈ { g with pagine := [] } :: esterni, h.pagine = [] :=
      List.forall_mem_cons.mpr ⟨rfl, fun h member =>
        holds.esterni h (tail_of_dropWhile split h member)⟩
    refine ⟨outer, ?_, holds.attese, Nat.le_succ_of_le holds.prossima⟩
    refine List.forall_mem_cons.mpr ⟨fun old => ?_, fun h member _ => outer h member⟩
    exact absurd old (Nat.not_lt.mpr holds.prossima)
  · exact holds

theorem costruisce_chiave (g : NavGraph) (user : Option User) (schermata : Schermata) :
    (g.costruisce user schermata).chiave = g.chiave := by
  unfold NavGraph.costruisce
  split <;> rfl

theorem pop_chiave (g : NavGraph) : g.pop.chiave = g.chiave := by
  unfold NavGraph.pop
  split <;> rfl

theorem Spento.mossa (holds : Spento p d) (young : p ≤ chiave) (mossa : Mossa) :
    Spento p (d.mossa chiave mossa) := by
  cases mossa with
  | pushNamed schermata => exact holds.naviga young fun g => costruisce_chiave g _ schermata
  | pushReplacementNamed schermata =>
    exact holds.naviga young fun g => costruisce_chiave g _ schermata
  | pop => exact holds.naviga young pop_chiave
  | chiama attesa =>
    refine { holds with attese := List.forall_mem_cons.mpr ⟨fun old => ?_, holds.attese⟩ }
    exact absurd old (Nat.not_lt.mpr young)

theorem Spento.mosse (holds : Spento p d) (young : p ≤ chiave) (mosse : List Mossa) :
    Spento p (mosse.foldl (fun d m => d.mossa chiave m) d) := by
  induction mosse generalizing d with
  | nil => exact holds
  | cons mossa rest ih => exact ih (holds.mossa young mossa)

theorem Spento.tocca (holds : Spento p d) (gesto : Gesto) : Spento p (d.tocca gesto) := by
  unfold Dispositivo.tocca
  split
  · next g others graphs =>
    split
    · next schermata sotto pages =>
      -- a graph that shows a page is not an old one
      refine holds.mosse (Nat.not_lt.mp fun old => ?_) _
      have empty := holds.vecchi g (graphs ▸ List.mem_cons_self) old
      rw [pages] at empty
      cases empty
    · exact holds
  · exact holds

theorem Spento.logout (holds : Spento p d) (guasti : Guasti) :
    Spento p (d.conclude chiave .logout guasti) := by
  rw [conclude_logout]
  split
  · apply Spento.pushAndRemoveUntil
    exact { holds with }
  · exact holds

theorem Spento.conclude (holds : Spento p d) (young : p ≤ chiave) (attesa : Attesa)
    (risposta : attesa.Risposta) : Spento p (d.conclude chiave attesa risposta) := by
  cases attesa with
  | login email password =>
    rw [conclude_login]
    simp only
    split
    · exact (holds.dopo _).mossa young _
    · exact holds.dopo _
  | signUp dati =>
    obtain ⟨guasti, uid⟩ := risposta
    cases up : ((ViewModelUtente.signUp guasti uid dati).exec
      (d.sistema chiave)).2.moduli.registrazioneRiuscita with
    | true =>
      rw [conclude_signUp_of_up up]
      exact (holds.dopo _).mossa young _
    | false =>
      rw [conclude_signUp_of_down up]
      exact holds.dopo _
  | resetPassword email =>
    cases up : ((ViewModelUtente.resetPassword risposta email).exec
      (d.sistema chiave)).2.moduli.resetPasswordRiuscito with
    | true =>
      rw [conclude_resetPassword_of_up up]
      exact (holds.dopo _).mossa young _
    | false =>
      rw [conclude_resetPassword_of_down up]
      exact holds.dopo _
  | updateFirstLogin userId =>
    cases userId with
    | none => exact holds.mossa young (.pushReplacementNamed .ituoiProgetti)
    | some userId =>
      rw [Dispositivo.conclude]
      split
      · next s _ =>
        have stored : Spento p { d with cloud := s.cloud } := { holds with }
        exact stored.mossa young _
      · exact holds
  | logout => exact holds.logout risposta
  | abbandonaProgetto =>
    cases risposta with
    | none => exact holds.mossa young (.pushReplacementNamed .ituoiProgetti)
    | some e => exact holds

theorem Spento.esegui (holds : Spento p d) (evento : Evento) : Spento p (evento.esegui d) := by
  cases evento with
  | tocca gesto => exact holds.tocca gesto
  | altrove accounts cloud => exact { holds with }
  | finisce chiave attesa risposta =>
    rw [Evento.esegui]
    split
    · next waiting =>
      have left : Spento p { d with attese := d.attese.erase (chiave, attesa) } :=
        { holds with attese := fun a member => holds.attese a (List.mem_of_mem_erase member) }
      by_cases old : chiave < p
      · cases holds.attese _ waiting old
        exact left.logout risposta
      · exact left.conclude (Nat.not_lt.mp old) attesa risposta
    · exact holds

theorem Corsa.spento {inizio : Dispositivo} {passi : List (Dispositivo × Evento)}
    (corsa : Corsa inizio passi d) (initial : Spento p inizio) : Spento p d := by
  induction corsa with
  | avvio => exact initial
  | passo evento _ ih => exact ih.esegui evento

theorem spento_avviato (auth : FirebaseAuth) (cloud : Store) (posta : List Mail) :
    Spento 0 (.avviato auth cloud posta) where
  esterni := List.forall_mem_nil _
  vecchi _ _ old := absurd old (Nat.not_lt_zero _)
  attese _ _ old := absurd old (Nat.not_lt_zero _)
  prossima := Nat.zero_le _

/-- A logout ends while only logouts are in flight: every graph but a new one is switched off. -/
theorem spento_of_logout {guasti : Guasti} (outer : ∀ g ∈ d.grafi.tail, g.pagine = [])
    (alone : ∀ attesa ∈ d.attese, attesa.2 = .logout) (waiting : (chiave, .logout) ∈ d.attese)
    (mounted : ∃ g ∈ d.grafi, g.chiave = chiave) (works : guasti.signOut = none) :
    Spento d.prossima ((Evento.finisce chiave .logout guasti).esegui d) := by
  rw [Evento.esegui, if_pos waiting, conclude_logout, if_pos works]
  have remaining : ∀ attesa ∈ d.attese.erase (chiave, .logout), attesa.2 = .logout :=
    fun a member => alone a (List.mem_of_mem_erase member)
  unfold Dispositivo.pushAndRemoveUntil
  split
  · next g esterni split =>
    have empty : ∀ h ∈ { g with pagine := [] } :: esterni, h.pagine = [] :=
      List.forall_mem_cons.mpr ⟨rfl, fun h member => outer h (tail_of_dropWhile split h member)⟩
    refine ⟨empty, ?_, fun a member _ => remaining a member, Nat.le_succ _⟩
    exact List.forall_mem_cons.mpr ⟨fun old => absurd old (Nat.lt_irrefl _),
      fun h member _ => empty h member⟩
  · next none =>
    obtain ⟨g, inside, same⟩ := mounted
    have all := List.dropWhile_eq_nil_iff.mp none g inside
    simp [same] at all

end

/-- Once a logout has ended with nothing but logouts in flight, pages behind the login come
back only after a new login, whatever is done on the device. -/
theorem closed_after_logout {auth : FirebaseAuth} {cloud : Store} {posta : List Mail}
    {prima poi : List (Dispositivo × Evento)} {d final : Dispositivo} {chiave : Nat}
    {guasti : Guasti} (corsa : Corsa (.avviato auth cloud posta) prima d)
    (mounted : ∃ g ∈ d.grafi, g.chiave = chiave) (waiting : (chiave, .logout) ∈ d.attese)
    (alone : ∀ attesa ∈ d.attese, attesa.2 = .logout) (works : guasti.signOut = none)
    (later : Corsa ((Evento.finisce chiave .logout guasti).esegui d) poi final)
    {g : NavGraph} (shows : g ∈ final.grafi) {schermata : Schermata}
    (shown : schermata ∈ g.pagine) (reserved : schermata.riservata = true) :
    ∃ passo ∈ poi, LoginRiuscito passo g.chiave := by
  have outer := (corsa.spento (spento_avviato auth cloud posta)).esterni
  have off := later.spento (spento_of_logout outer alone waiting mounted works)
  have whole := (corsa.passo (.finisce chiave .logout guasti)).append later
  obtain ⟨passo, member, login⟩ := (whole.sicuro.grafi g shows).pagine schermata shown reserved
  rcases List.mem_append.mp member with after | before
  · exact ⟨passo, after, login⟩
  · -- a login from before the logout went through an older graph, which shows no page
    exfalso
    have old : g.chiave < d.prossima := by
      rcases List.mem_cons.mp before with rfl | before
      · exact absurd login.2.2 id
      · exact corsa.sicuro.vecchi _ ⟨passo, before, login⟩
    rw [off.vecchi g shows old] at shown
    cases shown

/-! ## Anna leaves and comes back -/

def inUscita : Dispositivo := (Evento.tocca .logout).esegui aiProgetti

def uscita : Dispositivo := (Evento.finisce 0 .logout Guasti.nessuno).esegui inUscita

def tornata : Dispositivo := (entraAnna 1).esegui (accedeAnna.esegui uscita)

theorem closed_after_logout_anna : ∃ prima poi g, Corsa acceso prima inUscita ∧
    Corsa uscita poi tornata ∧ g ∈ tornata.grafi ∧ g.pagine = [.ituoiProgetti] ∧
    ∃ passo ∈ poi, LoginRiuscito passo g.chiave := by
  obtain ⟨passi, corsa⟩ := corsaDiAnna
  have out : Corsa acceso _ inUscita := corsa.passo (.tocca .logout)
  have later : Corsa uscita _ tornata := (Corsa.avvio.passo accedeAnna).passo (entraAnna 1)
  obtain ⟨g, h, graphs, pages⟩ : ∃ g h, tornata.grafi = [g, h] ∧ g.pagine = [.ituoiProgetti] :=
    ⟨_, _, rfl, rfl⟩
  have shows : g ∈ tornata.grafi := graphs ▸ List.mem_cons_self
  have shown : Schermata.ituoiProgetti ∈ g.pagine := pages ▸ List.mem_singleton_self _
  have waiting : inUscita.attese = [(0, .logout)] := rfl
  have mounted : ∃ g ∈ inUscita.grafi, g.chiave = 0 := ⟨_, List.mem_cons_self, rfl⟩
  have alone : ∀ attesa ∈ inUscita.attese, attesa.2 = .logout := by simp [waiting]
  exact ⟨_, _, g, out, later, shows, pages, closed_after_logout out mounted
    (waiting ▸ List.mem_singleton_self _) alone rfl later shows shown rfl⟩

/-- A login that is in flight when the logout ends brings the old pages back, even
refused, while nobody is signed in. -/
example :
    let conErrata := (Evento.tocca (.accedi "anna@a.it" "errata")).esegui inUscita
    let fuori := (Evento.finisce 0 .logout Guasti.nessuno).esegui conErrata
    let dentro := (Evento.finisce 0 (.login "anna@a.it" "errata") Guasti.nessuno).esegui fuori
    fuori.grafi.map NavGraph.pagine = [[.login], []] ∧
      dentro.grafi.map NavGraph.pagine = [[.benvenuto]] ∧ dentro.auth.currentUser = none :=
  ⟨rfl, rfl, rfl⟩

end TeamSync.Navigazione
