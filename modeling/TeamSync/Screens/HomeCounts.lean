import TeamSync.Cloud.Participants
import TeamSync.Library.Moments
import TeamSync.Projects.Abandonment
import TeamSync.Screens.ProjectLoads

/-! What a load of the home page shows, while others go on writing.

The projects and the number of each are read one after another: what is shown
need never have been true all at once, but each part of it has been.
-/

set_option autoImplicit false

namespace TeamSync.Screens.HomeCounts

open Effects ProgettoViewModel ProjectLoads

abbrev Conf (ι : Type) := Config ι firestore Thrown Store ProgettoViewModel

def filtri (progettoId : String) : List Filter :=
  -- the query of `countNonCompletedTodoByProject`
  [.isEqualTo "progetto" (.string progettoId), .isEqualTo "completato" (.bool false)]

def diUtente (userId : String) : List Filter := [.arrayContains "partecipanti" (.string userId)]

def decodifica (doc : String × Document) : Except Thrown Progetto :=
  Progetto.fromFirestore doc.1 doc.2

def letti (userId : String) :
    Reply firestore Thrown (.query .progetti (diUtente userId)) → List Progetto
  -- the list that `getProgettiUtente` makes of the answer
  | .ok docs => (docs.mapM decodifica).toOption.getD []
  | .error _ => []

def aperte (s : Store) (progettoId : String) : Nat := (s.trovati .todo (filtri progettoId)).length

def SuoiProgetti (s : Store) (userId : String) (progetti : List Progetto) : Prop :=
  ∀ p, p ∈ progetti ↔ ∃ id d, s.get .progetti id = some d ∧ d.partecipa userId ∧
    Progetto.Decodes id d p

/-- `attivitaProgetti[progetto.id] ?? 0`, the number beside a project. Of two entries of one
key a map keeps the later. -/
def attivitaNonCompletate (attivitaProgetti : List (String × Nat)) (progetto : Progetto) : Nat :=
  (progetto.id.bind fun id => attivitaProgetti.reverse.lookup id).getD 0

section
variable {ι : Type} [DecidableEq ι] {guard : Conf ι → ι → Prop} {c final : Conf ι} {i : ι}
  {xs : List (Exchange firestore Thrown)} {attivitaMap : List (String × Nat)}

def Contate (guard : Conf ι → ι → Prop) (i : ι) : Conf ι → List (String × Nat) → Conf ι → Prop
  -- each number was that of the open tasks, at a moment after that of the number before it; one
  -- whose query has failed is zero
  | c, [], final => Reaches network guard c final
  | c, (progettoId, n) :: rest, final => ∃ mid next, Reaches network guard c mid ∧
      Reaches network guard mid next ∧
      (n = aperte mid.store progettoId ∨
        n = 0 ∧ ∃ e, (i, ⟨.query .todo (filtri progettoId), .error e⟩) ∈ final.trace) ∧
      Contate guard i next rest final

theorem contate_of_follows {progetti : List Progetto}
    (follows : Follows (contaAttivita progetti) xs (.done attivitaMap))
    (moments : Moments network guard i c xs final) :
    Contate guard i c attivitaMap final ∧ attivitaMap.map Prod.fst = progetti.map chiave := by
  induction progetti generalizing xs attivitaMap c with
  | nil =>
    cases follows
    exact ⟨moments, rfl⟩
  | cons progetto rest ih =>
    obtain ⟨reply, others, after, rfl⟩ := Follows.of_call follows trivial
    obtain ⟨mid, next, choice, reached, step, answered, trace, moments⟩ := moments
    obtain ⟨n, after, was⟩ : ∃ n, Follows ((contaAttivita rest).bind fun counted =>
          .done ((chiave progetto, n) :: counted)) others (.done attivitaMap) ∧
        (n = aperte mid.store (chiave progetto) ∨ n = 0 ∧ ∃ e, reply = .error e) := by
      cases reply with
      | ok docs =>
        cases network_query_ok answered
        exact ⟨_, after, .inl rfl⟩
      | error e => exact ⟨0, after, .inr ⟨rfl, e, rfl⟩⟩
    obtain ⟨counted, ys, zs, counts, last, rfl⟩ := Follows.of_bind after
    cases last
    rw [List.append_nil] at moments
    obtain ⟨contate, chiavi⟩ := ih counts moments
    refine ⟨⟨mid, next, reached, step, was.imp_right ?_, contate⟩, by simp [chiavi]⟩
    rintro ⟨zero, e, rfl⟩
    exact ⟨zero, e, (moments.reaches).trace_subset (trace ▸ List.mem_cons_self)⟩

theorem letti_of_follows {userId : String} {progetti : List Progetto}
    (follows : Follows (RepositoryProgetto.getProgettiUtente userId) xs (.done progetti)) :
    ∃ reply, xs = [⟨.query .progetti (diUtente userId), reply⟩] ∧
      progetti = letti userId reply := by
  obtain ⟨reply, others, after, rfl⟩ := Follows.of_call follows trivial
  cases reply with
  | error e =>
    cases after
    exact ⟨_, rfl, rfl⟩
  | ok docs =>
    refine ⟨.ok docs, ?_⟩
    rw [letti]
    change Follows ((Process.ofExcept (docs.mapM decodifica)).rescue fun _ => .done []) _ _ at after
    cases read : docs.mapM decodifica with
    | ok progetti =>
      rw [read] at after
      cases after
      exact ⟨rfl, rfl⟩
    | error e =>
      rw [read] at after
      cases after
      exact ⟨rfl, rfl⟩

theorem named_of_letti {userId : String}
    {reply : Reply firestore Thrown (.query .progetti (diUtente userId))} {p : Progetto}
    (shown : p ∈ letti userId reply) : ∃ id, p.id = some id := by
  cases reply with
  | error e => cases shown
  | ok docs =>
    rw [letti] at shown
    cases read : docs.mapM decodifica with
    | error e =>
      rw [read] at shown
      cases shown
    | ok progetti =>
      rw [read] at shown
      obtain ⟨doc, -, decoded⟩ := of_mem_mapM read shown
      exact ⟨doc.1, (Progetto.fromFirestore_eq_ok.mp decoded).id⟩

theorem mostrata_mem {progetti : List Progetto} {p : Progetto} {id : String}
    (chiavi : attivitaMap.map Prod.fst = progetti.map chiave) (shown : p ∈ progetti)
    (named : p.id = some id) : (id, attivitaNonCompletate attivitaMap p) ∈ attivitaMap := by
  have key : id ∈ attivitaMap.map Prod.fst := by
    rw [chiavi]
    exact List.mem_map.mpr ⟨p, shown, by rw [chiave, named]; rfl⟩
  obtain ⟨entry, member, same⟩ := List.mem_map.mp key
  obtain ⟨m, found⟩ : ∃ m, attivitaMap.reverse.lookup id = some m := by
    rw [← Option.isSome_iff_exists, List.lookup_isSome_iff]
    exact ⟨entry, List.mem_reverse.mpr member, by simp [same]⟩
  obtain ⟨before, after, split, -⟩ := List.lookup_eq_some_iff.mp found
  have counted : (id, m) ∈ attivitaMap.reverse := by simp [split]
  rw [attivitaNonCompletate, named, Option.bind_some, found]
  exact List.mem_reverse.mp counted

theorem mem_suoi {s : Store} {userId id : String} {d : Document} :
    (id, d) ∈ s.trovati .progetti (diUtente userId) ↔
      s.get .progetti id = some d ∧ d.partecipa userId := by
  simp [Store.mem_trovati, diUtente, Filter.holds, Document.partecipa, Document.partecipanti]

theorem suoi_of_letti (s : Store) (userId : String) :
    SuoiProgetti s userId (letti userId (.ok (s.trovati .progetti (diUtente userId)))) ∨
      letti userId (.ok (s.trovati .progetti (diUtente userId))) = [] ∧
        ∃ id d, s.get .progetti id = some d ∧ d.partecipa userId ∧
          ∀ p, ¬ Progetto.Decodes id d p := by
  rw [letti]
  cases read : (s.trovati .progetti (diUtente userId)).mapM decodifica with
  | ok progetti =>
    refine .inl fun p => ⟨fun shown => ?_, ?_⟩
    · obtain ⟨⟨id, d⟩, listed, decoded⟩ := of_mem_mapM read shown
      obtain ⟨stored, takes⟩ := mem_suoi.mp listed
      exact ⟨id, d, stored, takes, Progetto.fromFirestore_eq_ok.mp decoded⟩
    · rintro ⟨id, d, stored, takes, decodes⟩
      obtain ⟨q, shown, decoded⟩ := mapM_of_mem read (mem_suoi.mpr ⟨stored, takes⟩)
      cases (Progetto.fromFirestore_eq_ok.mpr decodes).symm.trans decoded
      exact shown
  | error e =>
    refine .inr ⟨rfl, ?_⟩
    by_contra unreadable
    push Not at unreadable
    -- if each could be read, so could the list
    have each : ∀ doc ∈ s.trovati .progetti (diUtente userId), ∃ p, decodifica doc = .ok p := by
      rintro ⟨id, d⟩ listed
      obtain ⟨stored, takes⟩ := mem_suoi.mp listed
      obtain ⟨p, decodes⟩ := unreadable id d stored takes
      exact ⟨p, Progetto.fromFirestore_eq_ok.mpr decodes⟩
    obtain ⟨progetti, each⟩ := exists_forall₂ each
    cases read.symm.trans (mapM_of_forall₂ each)

end

/-- Whatever else goes on, a load of the home page shows the projects of the user as
they were at a moment of the load, and beside each project the number of open tasks
that it had at a later moment, one project after another. A list is empty where its
query fails or a project cannot be read, and a number is zero where its query fails. -/
theorem home_shows_what_was {ι : Type} [DecidableEq ι] {pool : ι → App ProgettoViewModel}
    {s : Store} {guard : Conf ι → ι → Prop} {c : Conf ι}
    (reach : Reaches network guard (.start s pool) c) {i : ι} {vm vm' : ProgettoViewModel}
    {userId : String} (loads : pool i = vm.caricaProgettiUtente userId)
    (ended : c.pool i = .done vm') :
    ∃ mid next, Reaches network guard (.start s pool) mid ∧ Reaches network guard mid next ∧
      (SuoiProgetti mid.store userId vm'.progetti ∨ vm'.progetti = [] ∧
        ((∃ e, (i, ⟨.query .progetti (diUtente userId), .error e⟩) ∈ c.trace) ∨
          ∃ id d, mid.store.get .progetti id = some d ∧ d.partecipa userId ∧
            ∀ p, ¬ Progetto.Decodes id d p)) ∧
      Contate guard i next vm'.attivitaProgetti c ∧
      ∀ p ∈ vm'.progetti, ∃ id, p.id = some id ∧
        (id, attivitaNonCompletate vm'.attivitaProgetti p) ∈ vm'.attivitaProgetti := by
  obtain ⟨xs, follows, moments⟩ := reach.followed i
  rw [loads, ended] at follows
  obtain ⟨progetti, ys, zs, listed, after, rfl⟩ := Follows.of_bind follows
  obtain ⟨attivitaMap, counts, last, counted, shown, rfl⟩ := Follows.of_bind after
  cases shown
  rw [List.append_nil] at moments
  obtain ⟨reply, rfl, rfl⟩ := letti_of_follows listed
  obtain ⟨mid, next, choice, reached, step, answered, trace, moments⟩ := moments
  obtain ⟨contate, chiavi⟩ := contate_of_follows counted moments
  refine ⟨mid, next, reached, step, ?_, contate, fun p shown => ?_⟩
  case refine_2 =>
    obtain ⟨id, named⟩ := named_of_letti shown
    exact ⟨id, named, mostrata_mem chiavi shown named⟩
  cases reply with
  | ok docs =>
    cases network_query_ok answered
    exact (suoi_of_letti mid.store userId).imp_right fun ⟨empty, unreadable⟩ =>
      ⟨empty, .inr unreadable⟩
  | error e =>
    exact .inr ⟨rfl, .inl ⟨e, (moments.reaches).trace_subset
      (trace ▸ List.mem_cons_self)⟩⟩

/-! ## A task that is added between the two queries -/

def paginaVuota : ProgettoViewModel := ⟨none, [], some "anna", [], true⟩

def caricaEAggiunge : Bool → App ProgettoViewModel
  | false => paginaVuota.caricaProgettiUtente "anna"
  | true => (fun _ => paginaVuota) <$> TodoRepository.addTodo ⟨0, false⟩ "Capitolo 1" ""
      ⟨microsPerDay, false⟩ .media false "anna" "p"

theorem home_shows_what_was_anna : ∃ (c : Conf Bool) (vm : ProgettoViewModel),
    (Config.start Projects.storeConProgetto caricaEAggiunge).run network
      [(false, .inr ""), (true, .inr "t"), (false, .inr "")] = some c ∧
    c.pool false = .done vm ∧ vm.attivitaProgetti = [("p", 1)] ∧
    ∃ mid next, Reaches network Config.anyStep (.start Projects.storeConProgetto caricaEAggiunge)
        mid ∧ Contate Config.anyStep false next vm.attivitaProgetti c := by
  obtain ⟨c, vm, ran, ended, counted⟩ : ∃ (c : Conf Bool) (vm : ProgettoViewModel),
      (Config.start Projects.storeConProgetto caricaEAggiunge).run network
        [(false, .inr ""), (true, .inr "t"), (false, .inr "")] = some c ∧
      c.pool false = .done vm ∧ vm.attivitaProgetti = [("p", 1)] := ⟨_, _, rfl, rfl, rfl⟩
  have reach : Reaches network Config.anyStep
      (.start Projects.storeConProgetto caricaEAggiunge) c :=
    .of_run _ ran (Config.along_anyStep _ _)
  have loads : caricaEAggiunge false = paginaVuota.caricaProgettiUtente "anna" := rfl
  obtain ⟨mid, next, before, -, -, contate, -⟩ := home_shows_what_was reach loads ended
  exact ⟨c, vm, ran, ended, counted, mid, next, before, contate⟩

end TeamSync.Screens.HomeCounts
