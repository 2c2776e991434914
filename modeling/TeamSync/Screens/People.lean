import TeamSync.Library.Moments
import TeamSync.Projects.Abandonment
import TeamSync.Session.Consistency
import TeamSync.Tasks.ConcurrentDelegation
import TeamSync.View.InfoProgettoUI

/-! The people whose names the pages show, while others go on writing.

The profiles are read one after another, each at a moment of its own.
-/

set_option autoImplicit false

namespace TeamSync.Screens.People

open Effects ProgettoViewModel

section
variable {ι A : Type} [DecidableEq ι]

abbrev Conf (ι A : Type) := Config ι firestore Thrown Store A

variable {guard : Conf ι A → ι → Prop} {assente : Conf ι A → String → Prop}
  {c mid next final : Conf ι A} {i : ι} {xs : List (Exchange firestore Thrown)}
  {userId : String} {userIds : List String} {utenti : List ProfiloUtente}

/-- The profiles of a list of users, each as it was stored at a moment after that of
the one before it. A user who was missing at his moment is passed over. -/
inductive Profili (guard : Conf ι A → ι → Prop) (assente : Conf ι A → String → Prop) :
    Conf ι A → List String → List ProfiloUtente → Conf ι A → Prop where
  | nil {c final : Conf ι A} : Reaches network guard c final → Profili guard assente c [] [] final
  | presente {c mid next final : Conf ι A} {userId : String} {userIds : List String} {d : Document}
      {p : ProfiloUtente} {utenti : List ProfiloUtente} : Reaches network guard c mid →
      Reaches network guard mid next → mid.store.get .utenti userId = some d →
      ProfiloUtente.fromFirestore userId d = .ok p →
      Profili guard assente next userIds utenti final →
      Profili guard assente c (userId :: userIds) (p :: utenti) final
  | assente {c mid next final : Conf ι A} {userId : String} {userIds : List String}
      {utenti : List ProfiloUtente} : Reaches network guard c mid → Reaches network guard mid next →
      assente mid userId → Profili guard assente next userIds utenti final →
      Profili guard assente c (userId :: userIds) utenti final

def Fallita (i : ι) (final : Conf ι A) (userId : String) : Prop :=
  ∃ e, (i, ⟨.get .utenti userId, .error e⟩) ∈ final.trace

def Illeggibile (guard : Conf ι A → ι → Prop) (i : ι) (c : Conf ι A) (userIds : List String)
    (final : Conf ι A) : Prop :=
  ∃ userId ∈ userIds, Fallita i final userId ∨
    ∃ mid d e, Reaches network guard c mid ∧ Reaches network guard mid final ∧
      mid.store.get .utenti userId = some d ∧ ProfiloUtente.fromFirestore userId d = .error e

def profilo (userId : String) :
    Reply firestore Thrown (.get .utenti userId) → Except Thrown (Option ProfiloUtente)
  | .ok (some d) => (ProfiloUtente.fromFirestore userId d).map some
  | .ok none => .ok none
  | .error e => .error e

def seguito (userIds : List String) :
    Except Thrown (Option ProfiloUtente) → App (List ProfiloUtente)
  | .ok utente => (getPartecipantiByIds userIds).bind fun utenti => .done (utente.toList ++ utenti)
  | .error e => .raise e

theorem getPartecipantiByIds_cons (userId : String) (userIds : List String) :
    getPartecipantiByIds (userId :: userIds) = .call (I := firestore) (.get .utenti userId)
      fun reply => seguito userIds (profilo userId reply) := by
  refine congrArg (Process.call (I := firestore) (.get .utenti userId)) (funext fun reply => ?_)
  cases reply with
  | error e => rfl
  | ok found =>
    cases found with
    | none => rfl
    | some d =>
      change (Process.ofExcept ((ProfiloUtente.fromFirestore userId d).map some)).bind _ = _
      rw [profilo]
      cases ProfiloUtente.fromFirestore userId d <;> rfl

theorem profili_of_follows
    (follows : Follows (getPartecipantiByIds userIds) xs (.done utenti))
    (moments : Moments network guard i c xs final) :
    Profili guard (fun mid userId => mid.store.get .utenti userId = none) c userIds utenti
      final := by
  induction userIds generalizing xs utenti c with
  | nil =>
    cases follows
    exact .nil moments
  | cons userId userIds ih =>
    rw [getPartecipantiByIds_cons] at follows
    obtain ⟨reply, others, after, rfl⟩ := Follows.of_call follows trivial
    obtain ⟨mid, next, choice, reached, step, answered, -, moments⟩ := moments
    cases read : profilo userId reply with
    | error e =>
      rw [read] at after
      cases after
    | ok utente =>
      rw [read] at after
      obtain ⟨others, ys, zs, rest, last, rfl⟩ := Follows.of_bind after
      cases last
      rw [List.append_nil] at moments
      have later := ih rest moments
      cases reply with
      | error e => cases read
      | ok found =>
        have stored := (network_get answered).2 found rfl
        cases found with
        | none =>
          cases read
          exact .assente reached step stored.symm later
        | some d =>
          cases decoded : ProfiloUtente.fromFirestore userId d with
          | error e =>
            rw [profilo, decoded] at read
            cases read
          | ok p =>
            rw [profilo, decoded] at read
            cases read
            exact .presente reached step stored.symm decoded later

theorem illeggibile_of_follows {e : Thrown}
    (follows : Follows (getPartecipantiByIds userIds) xs (.raise e))
    (moments : Moments network guard i c xs final) : Illeggibile guard i c userIds final := by
  induction userIds generalizing xs c with
  | nil => cases follows
  | cons userId userIds ih =>
    rw [getPartecipantiByIds_cons] at follows
    obtain ⟨reply, others, after, rfl⟩ := Follows.of_call follows trivial
    obtain ⟨mid, next, choice, reached, step, answered, trace, moments⟩ := moments
    have rest := step.trans moments.reaches
    cases reply with
    | error failure =>
      refine ⟨userId, List.mem_cons_self, .inl ⟨failure, ?_⟩⟩
      exact moments.reaches.trace_subset (trace ▸ List.mem_cons_self)
    | ok found =>
      have stored := (network_get answered).2 found rfl
      cases read : profilo userId (.ok found) with
      | error failure =>
        cases found with
        | none => cases read
        | some d =>
          cases decoded : ProfiloUtente.fromFirestore userId d with
          | ok p =>
            rw [profilo, decoded] at read
            cases read
          | error failure =>
            exact ⟨userId, List.mem_cons_self, .inr ⟨mid, d, failure, reached, rest, stored.symm,
              decoded⟩⟩
      | ok utente =>
        rw [read] at after
        rcases Follows.of_bind_raise after with raised | ⟨others, ys, zs, -, last, -⟩
        · obtain ⟨other, member, wrong⟩ := ih raised moments
          refine ⟨other, List.mem_cons_of_mem _ member, wrong.imp_right ?_⟩
          rintro ⟨mid', d, e, first, later, found⟩
          exact ⟨mid', d, e, (reached.trans step).trans first, later, found⟩
        · cases last

/-! ## The page of a project -/

def PartecipantiVeri (guard : Conf ι A → ι → Prop) (i : ι) (c : Conf ι A) (userIds : List String)
    (final : Conf ι A) : Partecipanti → Prop
  | .errore => Illeggibile guard i c userIds final
  | .nessuno => Profili guard (fun mid userId => mid.store.get .utenti userId = none) c userIds []
      final
  | .elenco nomi => ∃ utenti, utenti ≠ [] ∧ nomi = utenti.map TodoItem.nomeDi ∧
      Profili guard (fun mid userId => mid.store.get .utenti userId = none) c userIds utenti final

theorem partecipanti_of_follows {snapshot : AsyncSnapshot (List ProfiloUtente)}
    (follows : Follows (AsyncSnapshot.di (getPartecipantiByIds userIds)) xs (.done snapshot))
    (moments : Moments network guard i c xs final) :
    PartecipantiVeri guard i c userIds final (.di snapshot) := by
  rcases Follows.of_rescue follows with ended | ⟨e, ys, zs, raised, last, rfl⟩
  · obtain ⟨utenti, ys, zs, rest, last, rfl⟩ := Follows.of_bind ended
    cases last
    rw [List.append_nil] at moments
    have shown := profili_of_follows rest moments
    cases utenti with
    | nil => exact shown
    | cons p utenti => exact ⟨p :: utenti, List.cons_ne_nil _ _, rfl, shown⟩
  · rcases Follows.of_bind_raise raised with thrown | ⟨utenti, first, rest, -, last', -⟩
    · cases last
      rw [List.append_nil] at moments
      exact illeggibile_of_follows thrown moments
    · cases last'

def InfoVera (guard : Conf ι A → ι → Prop) (i : ι) (projectId : String) (c final : Conf ι A) :
    InfoProgetto → Prop
  | .errore => False
  | .nonTrovato => (∃ e, (i, ⟨.get .progetti projectId, .error e⟩) ∈ final.trace) ∨
      ∃ mid, Reaches network guard c mid ∧ Reaches network guard mid final ∧
        ∀ d p, mid.store.get .progetti projectId = some d → ¬ Progetto.Decodes projectId d p
  | .mostra p partecipanti => ∃ mid next d, Reaches network guard c mid ∧
      Reaches network guard mid next ∧ mid.store.get .progetti projectId = some d ∧
      Progetto.Decodes projectId d p ∧
      PartecipantiVeri guard i next p.partecipanti final partecipanti

def pagina (found : Option Progetto) : App InfoProgetto :=
  match found with
  | none => .done .nonTrovato
  | some progetto => (AsyncSnapshot.di (getPartecipantiByIds progetto.partecipanti)).bind
      fun snapshot => .done (.mostra progetto (.di snapshot))

def progettoLetto (projectId : String) :
    Reply firestore Thrown (.get .progetti projectId) → Option Progetto
  | .ok (some d) => (Progetto.fromFirestore projectId d).toOption
  | _ => none

theorem getProgettoById_eq (projectId : String) :
    RepositoryProgetto.getProgettoById projectId = .call (I := firestore) (.get .progetti projectId)
      fun reply => .done (progettoLetto projectId reply) := by
  refine congrArg (Process.call (I := firestore) (.get .progetti projectId))
    (funext fun reply => ?_)
  cases reply with
  | error e => rfl
  | ok found =>
    cases found with
    | none => rfl
    | some d =>
      change (Process.ofExcept ((Progetto.fromFirestore projectId d).map some)).rescue
        (fun _ => .done none) = _
      rw [progettoLetto]
      cases Progetto.fromFirestore projectId d <;> rfl

theorem build_eq (projectId : String) :
    InfoProgetto.build projectId = .call (I := firestore) (.get .progetti projectId) fun reply =>
      pagina (progettoLetto projectId reply) := by
  rw [InfoProgetto.build, ProgettoViewModel.getProgettoById, getProgettoById_eq]
  refine congrArg (Process.call (I := firestore) (.get .progetti projectId))
    (funext fun reply => ?_)
  simp only [Process.rescue_done, Process.bind_done, Process.pure_eq_done]
  cases progettoLetto projectId reply <;> rfl

theorem progettoLetto_eq_some {projectId : String} {p : Progetto}
    {reply : Reply firestore Thrown (.get .progetti projectId)}
    (read : progettoLetto projectId reply = some p) :
    ∃ d, reply = .ok (some d) ∧ Progetto.Decodes projectId d p := by
  rcases reply with e | (_ | d)
  · cases read
  · cases read
  · refine ⟨d, rfl, Progetto.fromFirestore_eq_ok.mp ?_⟩
    rw [progettoLetto] at read
    cases decoded : Progetto.fromFirestore projectId d with
    | error e =>
      rw [decoded] at read
      cases read
    | ok q =>
      rw [decoded] at read
      cases read
      rfl

theorem infoVera_of_follows {projectId : String} {info : InfoProgetto}
    (follows : Follows (InfoProgetto.build projectId) xs (.done info))
    (moments : Moments network guard i c xs final) : InfoVera guard i projectId c final info := by
  rw [build_eq] at follows
  obtain ⟨reply, others, after, rfl⟩ := Follows.of_call follows trivial
  obtain ⟨mid, next, choice, reached, step, answered, trace, moments⟩ := moments
  cases read : progettoLetto projectId reply with
  | none =>
    rw [read] at after
    cases after
    cases reply with
    | error e =>
      exact .inl ⟨e, moments.reaches.trace_subset (trace ▸ List.mem_cons_self)⟩
    | ok found =>
      have stored := (network_get answered).2 found rfl
      refine .inr ⟨mid, reached, step.trans moments.reaches, fun d p here decodes => ?_⟩
      cases stored.trans here
      rw [progettoLetto, Progetto.fromFirestore_eq_ok.mpr decodes] at read
      cases read
  | some p =>
    rw [read] at after
    obtain ⟨snapshot, ys, zs, rest, last, rfl⟩ := Follows.of_bind after
    cases last
    rw [List.append_nil] at moments
    obtain ⟨d, rfl, decodes⟩ := progettoLetto_eq_some read
    have stored := (network_get answered).2 _ rfl
    exact ⟨mid, next, d, reached, step, stored.symm, decodes, partecipanti_of_follows rest moments⟩

/-! ## A task of the list -/

def Manca (i : ι) (final mid : Conf ι A) (userId : String) : Prop :=
  Fallita i final userId ∨
    ∀ d p, mid.store.get .utenti userId = some d → ProfiloUtente.fromFirestore userId d ≠ .ok p

def righe (tutti : Bool) (nomi : List String) : String :=
  if tutti then "\n".intercalate nomi else String.join (nomi.map fun nome => nome ++ "\n")

@[simp] theorem righe_nil (tutti : Bool) : righe tutti [] = "" := by cases tutti <;> simp [righe]

def utenteLetto (userId : String) (reply : Reply firestore Thrown (.get .utenti userId)) :
    Option ProfiloUtente :=
  (profilo userId reply).toOption.join

theorem ottieniUtente_eq (userId : String) :
    ViewModelUtente.ottieniUtente userId = .call (I := firestore) (.get .utenti userId)
      fun reply => .done (utenteLetto userId reply) := by
  refine congrArg (Process.call (I := firestore) (.get .utenti userId)) (funext fun reply => ?_)
  cases reply with
  | error e => rfl
  | ok found =>
    cases found with
    | none => rfl
    | some d =>
      change ((Process.ofExcept ((ProfiloUtente.fromFirestore userId d).map some)).rescue
        (fun _ => .done none)).rescue (fun _ => .done none) = _
      rw [utenteLetto, profilo]
      cases ProfiloUtente.fromFirestore userId d <;> rfl

theorem utenteLetto_eq_some {p : ProfiloUtente}
    {reply : Reply firestore Thrown (.get .utenti userId)} :
    utenteLetto userId reply = some p ↔
      ∃ d, reply = .ok (some d) ∧ ProfiloUtente.fromFirestore userId d = .ok p := by
  rcases reply with e | (_ | d)
  · simp [utenteLetto, profilo, Except.toOption]
  · simp [utenteLetto, profilo, Except.toOption]
  · rw [utenteLetto, profilo]
    cases read : ProfiloUtente.fromFirestore userId d <;> simp [Except.map, Except.toOption, read]

def riga (size : Nat) (userIds : List String) (contatore : Nat) (listaUtenti : String) :
    Option ProfiloUtente → App String
  | some persona =>
    if contatore + 1 = size then
      TodoItem.scriviUtenti size userIds (contatore + 1) (listaUtenti ++ TodoItem.nomeDi persona)
    else TodoItem.scriviUtenti size userIds (contatore + 1)
      (listaUtenti ++ (TodoItem.nomeDi persona ++ "\n"))
  | none => TodoItem.scriviUtenti size userIds contatore listaUtenti

theorem riga_some (size : Nat) (userIds : List String) (contatore : Nat) (listaUtenti : String)
    (persona : ProfiloUtente) : riga size userIds contatore listaUtenti (some persona) =
      TodoItem.scriviUtenti size userIds (contatore + 1) (listaUtenti ++
        if contatore + 1 = size then TodoItem.nomeDi persona
        else TodoItem.nomeDi persona ++ "\n") := by
  rw [riga]
  split <;> rfl

theorem scriviUtenti_cons (size : Nat) (userId : String) (userIds : List String) (contatore : Nat)
    (listaUtenti : String) :
    TodoItem.scriviUtenti size (userId :: userIds) contatore listaUtenti =
      .call (I := firestore) (.get .utenti userId) fun reply =>
        riga size userIds contatore listaUtenti (utenteLetto userId reply) := by
  rw [TodoItem.scriviUtenti, ottieniUtente_eq]
  refine congrArg (Process.call (I := firestore) (.get .utenti userId)) (funext fun reply => ?_)
  simp only [Process.bind_done]
  cases utenteLetto userId reply <;> rfl

end

theorem righe_cons {size : Nat} (contatore : Nat) (nome : String) (nomi : List String)
    (room : contatore + 1 + nomi.length ≤ size) :
    righe (contatore + (nomi.length + 1) = size) (nome :: nomi) =
      (if contatore + 1 = size then nome else nome ++ "\n") ++
        righe (contatore + 1 + nomi.length = size) nomi := by
  have same : (contatore + (nomi.length + 1) = size) ↔ contatore + 1 + nomi.length = size := by
    omega
  simp only [same]
  cases nomi with
  | nil =>
    by_cases last : contatore + 1 = size <;> simp [righe, last]
  | cons second rest =>
    have more : contatore + 1 ≠ size := by
      simp only [List.length_cons] at room
      omega
    rw [if_neg more]
    unfold righe
    split
    · rw [String.intercalate_cons_of_ne_nil (List.cons_ne_nil _ _)]
    · simp [String.append_assoc]

section
variable {ι A : Type} [DecidableEq ι] {guard : Conf ι A → ι → Prop} {c final : Conf ι A} {i : ι}
  {xs : List (Exchange firestore Thrown)} {userIds : List String}

/-- The loop of `_fetchUsers` writes the names that it finds below those it has. -/
theorem scritti_of_follows {size contatore : Nat} {listaUtenti testo : String}
    (follows : Follows (TodoItem.scriviUtenti size userIds contatore listaUtenti) xs (.done testo))
    (moments : Moments network guard i c xs final) (room : contatore + userIds.length ≤ size) :
    ∃ utenti, Profili guard (Manca i final) c userIds utenti final ∧
      utenti.length ≤ userIds.length ∧ testo = listaUtenti ++
        righe (contatore + utenti.length = size) (utenti.map TodoItem.nomeDi) := by
  induction userIds generalizing xs c contatore listaUtenti with
  | nil =>
    cases follows
    exact ⟨[], .nil moments, Nat.le_refl _, by simp⟩
  | cons userId userIds ih =>
    rw [scriviUtenti_cons] at follows
    obtain ⟨reply, others, after, rfl⟩ := Follows.of_call follows trivial
    obtain ⟨mid, next, choice, reached, step, answered, trace, moments⟩ := moments
    rw [List.length_cons] at room
    cases read : utenteLetto userId reply with
    | none =>
      rw [read] at after
      obtain ⟨utenti, shown, fewer, rfl⟩ := ih after moments (by omega)
      refine ⟨utenti, .assente reached step ?_ shown, Nat.le_succ_of_le fewer, rfl⟩
      cases reply with
      | error e => exact .inl ⟨e, moments.reaches.trace_subset (trace ▸ List.mem_cons_self)⟩
      | ok found =>
        refine .inr fun d p stored decoded => ?_
        have here := (network_get answered).2 found rfl
        have some := utenteLetto_eq_some.mpr ⟨d, congrArg Except.ok (here.trans stored), decoded⟩
        cases read.symm.trans some
    | some persona =>
      obtain ⟨d, rfl, decoded⟩ := utenteLetto_eq_some.mp read
      have stored := (network_get answered).2 _ rfl
      rw [read, riga_some] at after
      obtain ⟨utenti, shown, fewer, rfl⟩ := ih after moments (by omega)
      refine ⟨persona :: utenti, .presente reached step stored.symm decoded shown,
        Nat.succ_le_succ fewer, ?_⟩
      have fits : contatore + 1 + (utenti.map TodoItem.nomeDi).length ≤ size := by
        rw [List.length_map]
        omega
      have first := righe_cons contatore (TodoItem.nomeDi persona) _ fits
      rw [List.length_map] at first
      rw [List.length_cons, List.map_cons, first, String.append_assoc]

end

/-- Whatever else goes on, the page of a project shows the project as it was stored at
a moment of its reads, and then, in the order of its participants, the name of each
one whose profile was stored at a moment of its own; it never shows the error of the
project, and the error of the participants only where a profile could not be read. -/
theorem info_shows_what_was {ι : Type} [DecidableEq ι] {pool : ι → App InfoProgetto} {s : Store}
    {guard : Conf ι InfoProgetto → ι → Prop} {c : Conf ι InfoProgetto}
    (reach : Reaches network guard (.start s pool) c) {i : ι} {projectId : String}
    (opens : pool i = InfoProgetto.build projectId) {info : InfoProgetto}
    (ended : c.pool i = .done info) :
    InfoVera guard i projectId (.start s pool) c info := by
  obtain ⟨xs, follows, moments⟩ := reach.followed i
  rw [opens, ended] at follows
  exact infoVera_of_follows follows moments

/-! ## The page of anna's project, which she leaves while it loads -/

def conProfilo : Store := Projects.storeConProgetto.put .utenti "anna" Session.profiloDiAnna

def leggeELascia : Bool → App InfoProgetto
  | false => InfoProgetto.build "p"
  | true => (fun _ => .errore) <$> ProgettoViewModel.abbandonaProgetto (some "anna") "p"

theorem info_shows_what_was_anna : ∃ (c : Conf Bool InfoProgetto) (p : Progetto),
    (Config.start conProfilo leggeELascia).run network [(false, .inr ""), (true, .inr ""),
      (true, .inr ""), (true, .inr ""), (true, .inr ""), (false, .inr "")] = some c ∧
    c.pool false = .done (.mostra p (.elenco ["Anna Rossi"])) ∧
    c.store.get .progetti "p" = none ∧
    InfoVera Config.anyStep false "p" (.start conProfilo leggeELascia) c
      (.mostra p (.elenco ["Anna Rossi"])) := by
  obtain ⟨c, p, ran, ended, gone⟩ : ∃ (c : Conf Bool InfoProgetto) (p : Progetto),
      (Config.start conProfilo leggeELascia).run network [(false, .inr ""), (true, .inr ""),
        (true, .inr ""), (true, .inr ""), (true, .inr ""), (false, .inr "")] = some c ∧
      c.pool false = .done (.mostra p (.elenco ["Anna Rossi"])) ∧
      c.store.get .progetti "p" = none := ⟨_, _, rfl, rfl, rfl⟩
  have reach : Reaches network Config.anyStep (.start conProfilo leggeELascia) c :=
    .of_run _ ran (Config.along_anyStep _ _)
  have opens : leggeELascia false = InfoProgetto.build "p" := rfl
  exact ⟨c, p, ran, ended, gone, info_shows_what_was reach opens ended⟩

/-- Whatever else goes on, a task of a list names its assignees as their profiles were
stored, each at a moment of its own and in the order of the task; it is changed only
by its assignees. -/
theorem item_shows_what_was {ι : Type} [DecidableEq ι] {pool : ι → App TodoItem} {s : Store}
    {guard : Conf ι TodoItem → ι → Prop} {c : Conf ι TodoItem}
    (reach : Reaches network guard (.start s pool) c) {i : ι} {utenteCorrente : Option String}
    {item : LeMieAttivita} (opens : pool i = TodoItem.fetchUsers utenteCorrente item)
    {mostrato : TodoItem} (ended : c.pool i = .done mostrato) :
    mostrato.item = item ∧ mostrato.caricamento = false ∧
      (mostrato.modifica = true ↔ ∃ id ∈ utenteCorrente, id ∈ item.utenti) ∧
      ∃ utenti, Profili guard (Manca i c) (.start s pool) item.utenti utenti c ∧
        mostrato.listaUtenti =
          righe (utenti.length = item.utenti.length) (utenti.map TodoItem.nomeDi) := by
  obtain ⟨xs, follows, moments⟩ := reach.followed i
  rw [opens, ended] at follows
  obtain ⟨testo, ys, zs, written, last, rfl⟩ := Follows.of_bind follows
  cases last
  rw [List.append_nil] at moments
  obtain ⟨utenti, shown, -, rfl⟩ :=
    scritti_of_follows written moments (Nat.le_of_eq (Nat.zero_add _))
  refine ⟨rfl, rfl, ?_, utenti, shown, by simp⟩
  cases utenteCorrente <;> simp

/-! ## A task of anna and bruno, who has no profile -/

def diEntrambi : LeMieAttivita := { Tasks.attivitaDiAnna with utenti := ["anna", "bruno"] }

def mostraAdAnna : Unit → App TodoItem := fun _ => TodoItem.fetchUsers (some "anna") diEntrambi

theorem item_shows_what_was_anna : ∃ (c : Conf Unit TodoItem) (mostrato : TodoItem),
    (Config.start conProfilo mostraAdAnna).run network [((), .inr ""), ((), .inr "")] = some c ∧
    c.pool () = .done mostrato ∧ mostrato.modifica = true ∧ ∃ utenti : List ProfiloUtente,
      mostrato.listaUtenti = righe (utenti.length = 2) (utenti.map TodoItem.nomeDi) := by
  obtain ⟨c, mostrato, ran, ended, modifica⟩ : ∃ (c : Conf Unit TodoItem) (mostrato : TodoItem),
      (Config.start conProfilo mostraAdAnna).run network [((), .inr ""), ((), .inr "")] = some c ∧
      c.pool () = .done mostrato ∧ mostrato.modifica = true := ⟨_, _, rfl, rfl, rfl⟩
  have reach : Reaches network Config.anyStep (.start conProfilo mostraAdAnna) c :=
    .of_run _ ran (Config.along_anyStep _ _)
  have opens : mostraAdAnna () = TodoItem.fetchUsers (some "anna") diEntrambi := rfl
  obtain ⟨-, -, -, utenti, -, text⟩ := item_shows_what_was reach opens ended
  exact ⟨c, mostrato, ran, ended, modifica, utenti, text⟩

end TeamSync.Screens.People
