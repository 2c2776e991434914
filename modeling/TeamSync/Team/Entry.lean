import TeamSync.Cloud.Known
import TeamSync.Library.Warrant
import TeamSync.Team.DifferentDocuments
import TeamSync.Team.Identity
import TeamSync.Team.Participants

/-! How a user comes to take part in a project. -/

set_option autoImplicit false

namespace TeamSync.Team

open Effects Projects Tasks

abbrev Scambi := List (Exchange firestore Thrown)

def Trovato (codice : String) (seen : Scambi) (id : String) : Prop :=
  ∃ docs d, ⟨opCerca codice, .ok docs⟩ ∈ seen ∧ (id, d) ∈ docs

def Concesso (call : TeamCall) (seen : Scambi) : Op → Prop
  | .add .progetti data => call.crea = some data
  | .set .progetti id data => ∃ d, ⟨.get .progetti id, .ok (some d)⟩ ∈ seen ∧
    data.partecipanti = d.partecipanti
  | .update .progetti id data =>
    (∃ user, data = [("partecipanti", .arrayRemove [.string user])]) ∨
    ∃ user codice, data = [("partecipanti", .arrayUnion [.string user])] ∧
      call = .suProgetto (.membro (.unisciti user codice)) ∧ Trovato codice seen id
  | _ => True

section
variable {A : Type} {call : TeamCall} {seen later : Scambi} {codice id : String}

theorem Trovato.mono (found : Trovato codice seen id) (includes : seen ⊆ later) :
    Trovato codice later id := by
  obtain ⟨docs, d, asked, listed⟩ := found
  exact ⟨docs, d, includes asked, listed⟩

theorem concesso_of_quiet {p : App A} (quiet : Quiet p) :
    p.Warranted (Concesso call) (fun _ _ => True) seen := by
  refine .of_onlyCalls quiet fun later op _ read => ?_
  cases op with
  | get | query | callback | onSuccess => trivial
  | add | set | update | delete => cases read

theorem concesso_perform {op : Op} (granted : Concesso call seen op) :
    (Process.perform (I := firestore) op).Warranted (Concesso call) (fun _ _ => True) seen :=
  .perform granted fun _ => trivial

theorem concesso_of_soloSu {p : App A} (solo : SoloSu (.todo, id) p) :
    p.Warranted (Concesso call) (fun _ _ => True) seen := by
  refine .of_onlyCalls solo fun later op _ su => ?_
  cases op with
  | get | query | delete | callback | onSuccess => trivial
  | add c data => exact su.elim
  | set c key data | update c key data =>
    cases su
    trivial

/-! ## The calls -/

theorem warranted_getProgettoIdByCodice (codice : String) (seen : Scambi) :
    (RepositoryProgetto.getProgettoIdByCodice codice).Warranted (Concesso call)
      (fun seen found => ∀ id, found = some id → Trovato codice seen id) seen := by
  refine ⟨trivial, fun reply => ?_⟩
  cases reply with
  | error e =>
    intro id same
    cases same
  | ok docs =>
    intro id same
    obtain ⟨⟨key, d⟩, first, rfl⟩ := Option.map_eq_some_iff.mp same
    exact ⟨docs, d, List.mem_append_right _ List.mem_cons_self, List.mem_of_mem_head? first⟩

theorem warranted_unisciti (user codice : String) :
    (ProgettoViewModel.aggiungiPartecipanteConCodice user codice).Warranted
      (Concesso (.suProgetto (.membro (.unisciti user codice)))) (fun _ _ => True) seen := by
  refine .rescue (.bind (warranted_getProgettoIdByCodice codice seen)
    fun found later _ led => ?_) fun _ _ _ => trivial
  refine .bind (concesso_of_quiet (quiet_lista _ _ _)) fun progettiUtente last includes _ => ?_
  cases found with
  | none => trivial
  | some id =>
    dsimp only
    split
    · trivial
    · have entered : (RepositoryProgetto.aggiungiPartecipante (some id) (some user)).Warranted
          (Concesso (.suProgetto (.membro (.unisciti user codice)))) (fun _ _ => True) last :=
        concesso_perform (.inr ⟨user, codice, rfl, rfl, (led id rfl).mono includes⟩)
      exact .bind entered fun _ _ _ _ => trivial

theorem warranted_abbandonaProgetto (userId : Option String) (progettoId : String) :
    (ProgettoViewModel.abbandonaProgetto userId progettoId).Warranted (Concesso call)
      (fun _ _ => True) seen := by
  cases userId with
  | none => trivial
  | some user =>
    have counted : Quiet (RepositoryProgetto.getPartecipantiDelProgetto progettoId) := by
      refine .bind (.perform (I := firestore) rfl) fun found => ?_
      cases found with
      | none => trivial
      | some data => exact .ofExcept _
    have deleted : ∀ later, (RepositoryProgetto.eliminaProgetto progettoId).Warranted
        (Concesso call) (fun _ _ => True) later := fun later =>
      .rescue (concesso_perform trivial) fun _ _ _ => trivial
    have answered : ∀ eliminato later, (callback eliminato).Warranted (Concesso call)
        (fun _ _ => True) later := fun eliminato later =>
      concesso_perform trivial
    refine .rescue (.bind (concesso_of_quiet (.perform (I := firestore) rfl))
      fun found later _ _ => ?_) fun _ _ _ => trivial
    dsimp only
    split
    · trivial
    refine .bind (concesso_perform (.inl ⟨user, rfl⟩))
      fun _ _ _ (_ : True) => .bind (concesso_of_quiet counted) fun listaPartecipanti _ _ _ => ?_
    split
    · exact .bind (deleted _) fun _ _ _ _ => answered _ _
    · exact answered _ _

theorem warranted_getProgettoById {warrant : Scambi → Op → Prop} {progettoId : String}
    (free : warrant seen (.get .progetti progettoId)) :
    (RepositoryProgetto.getProgettoById progettoId).Warranted warrant
      (fun later found => ∀ progetto, found = some progetto →
        ∃ d, ⟨.get .progetti progettoId, .ok (some d)⟩ ∈ later ∧
          Progetto.Decodes progettoId d progetto) seen := by
  refine ⟨free, fun reply => .rescue ?_ fun e later _ progetto same => (by cases same)⟩
  cases reply with
  | error e => trivial
  | ok found =>
    cases found with
    | none =>
      intro progetto same
      cases same
    | some d =>
      refine .ofExcept fun read decoded progetto same => ?_
      rw [same] at decoded
      cases result : Progetto.fromFirestore progettoId d with
      | error e =>
        rw [result] at decoded
        cases decoded
      | ok p =>
        rw [result] at decoded
        cases decoded
        exact ⟨d, List.mem_append_right _ List.mem_cons_self,
          Progetto.fromFirestore_eq_ok.mp result⟩

theorem warranted_aggiornaProgetto (vm : ProgettoViewModel)
    (progettoId nome descrizione : String) (dataScadenza : DateTime) (priorita : Priorita)
    (completato : Bool) (voto : String) (dataConsegna : DateTime) :
    (vm.aggiornaProgetto progettoId nome descrizione dataScadenza priorita completato voto
      dataConsegna).Warranted (Concesso call) (fun _ _ => True) seen := by
  refine .bind (warranted_getProgettoById trivial) fun found later _ read => ?_
  cases found with
  | none => trivial
  | some progetto =>
    obtain ⟨d, asked, decodes⟩ := read progetto rfl
    have target : (modificato progetto nome descrizione dataScadenza priorita completato voto
        dataConsegna).id = some progettoId := decodes.id
    have written : (RepositoryProgetto.aggiornaProgetto (modificato progetto nome descrizione
        dataScadenza priorita completato voto dataConsegna)).Warranted (Concesso call)
          (fun _ _ => True) later := by
      rw [RepositoryProgetto.aggiornaProgetto, target]
      exact concesso_perform ⟨d, asked, partecipanti_modificato decodes ..⟩
    refine .bind written fun _ _ _ _ => ?_
    split
    · exact concesso_of_quiet (quiet_caricaProgettiUtente vm _)
    · trivial

theorem warranted_addProgetto (vm : ProgettoViewModel) (now : DateTime)
    (progettoId uuid nome descrizione : String) (dataScadenza : DateTime) (priorita : Priorita)
    (partecipanti : List String) :
    (vm.addProgetto now progettoId uuid nome descrizione dataScadenza priorita
      partecipanti).Warranted (Concesso (.addProgetto vm now progettoId uuid nome descrizione
        dataScadenza priorita partecipanti)) (fun _ _ => True) seen := by
  refine .rescue (.bind (.map _ (.rescue (concesso_perform rfl) fun _ _ _ => trivial))
    fun _ _ _ (_ : True) => ?_) fun _ _ _ => trivial
  exact .bind (concesso_perform trivial) fun _ _ _ _ => trivial

theorem warranted_addTodo (zone : Zone) (oggi now : DateTime) (titolo descrizione : String)
    (dataScadenza : DateTime) (completato : Bool) (proprietario progetto : String)
    (priorita : Priorita) :
    (LeMieAttivitaViewModel.addTodo zone oggi now titolo descrizione dataScadenza completato
      proprietario progetto priorita).Warranted (Concesso call) (fun _ _ => True) seen := by
  unfold LeMieAttivitaViewModel.addTodo
  split
  · trivial
  split
  · trivial
  · exact .rescue (.bind (.rescue (.map _ (concesso_perform trivial)) fun _ _ _ => trivial)
      fun _ _ _ _ => trivial) fun _ _ _ => trivial

theorem warranted_process (call : TeamCall) :
    call.process.Warranted (Concesso call) (fun _ _ => True) [] := by
  match call with
  | .suProgetto (.membro (.unisciti user codice)) => exact .map _ (.map _ (warranted_unisciti ..))
  | .suProgetto (.membro (.abbandona user progettoId)) =>
    exact .map _ (.map _ (warranted_abbandonaProgetto ..))
  | .suProgetto (.aggiorna ..) => exact .map _ (.map _ (warranted_aggiornaProgetto ..))
  | .addProgetto .. => exact .map _ (warranted_addProgetto ..)
  | .getAttivitaByProgettoId progettoId => exact concesso_of_quiet (quiet_getAttivita progettoId)
  | .addTodo .. => exact .map _ (warranted_addTodo ..)
  | .updateTodo .. => exact concesso_of_soloSu (soloSu_process rfl)
  | .updateDataScadenzaTodo now attivita dataScadenzaProgetto =>
    cases named : attivita.id with
    | some id =>
      have onTask : (TeamCall.updateDataScadenzaTodo now attivita dataScadenzaProgetto).documento =
          some (.todo, id) := by
        rw [TeamCall.documento, named]
        rfl
      exact concesso_of_soloSu (soloSu_process onTask)
    | none =>
      simp only [TeamCall.process, LeMieAttivitaViewModel.updateDataScadenzaTodo, named]
      trivial
  | .completeTodo .. => exact concesso_of_soloSu (soloSu_process rfl)
  | .delega .. => exact concesso_of_soloSu (soloSu_process rfl)
  | .deleteTodo .. => exact concesso_of_soloSu (soloSu_process rfl)

end

/-! ## Runs -/

section
variable {ι : Type} [DecidableEq ι] {calls : ι → TeamCall} {s : Store}
  {guard : Config ι firestore Thrown Store Unit → ι → Prop}
  {c mid final : Config ι firestore Thrown Store Unit} {id user : String}

/-- What has brought a user into a project. -/
inductive Ingresso (calls : ι → TeamCall) (s : Store)
    (trace : List (ι × Exchange firestore Thrown)) (id user : String) : Prop where
  | iniziale (member : s.partecipa id user)
  | creazione (i : ι) (data : Document) (creates : (calls i).crea = some data)
      (made : (i, ⟨.add .progetti data, .ok id⟩) ∈ trace) (member : data.partecipa user)
  | codice (i : ι) (codice : String) (docs : List (String × Document)) (d : Document)
      (joins : calls i = .suProgetto (.membro (.unisciti user codice)))
      (found : (i, ⟨opCerca codice, .ok docs⟩) ∈ trace) (listed : (id, d) ∈ docs)
      (written : (i, ⟨opUnisciti user id, .ok ()⟩) ∈ trace)

omit [DecidableEq ι] in
theorem Ingresso.mono {trace later : List (ι × Exchange firestore Thrown)}
    (entered : Ingresso calls s trace id user) (includes : trace ⊆ later) :
    Ingresso calls s later id user := by
  cases entered with
  | iniziale member => exact .iniziale member
  | creazione i data creates made member => exact .creazione i data creates (includes made) member
  | codice i codice docs d joins found listed written =>
    exact .codice i codice docs d joins (includes found) listed (includes written)

/-- Who takes part, in the database or in what has been read of it, has entered. -/
theorem ingresso_of_conosciuto (reach : Reaches network guard (start s calls) c) {d : Document}
    (known : Conosciuto c .progetti id d) : ∀ user, d.partecipa user →
      Ingresso calls s c.trace id user := by
  refine known.induction (P := fun c id d => ∀ user, d.partecipa user →
    Ingresso calls s c.trace id user) reach ?_ ?_ ?_
  · exact fun id d stored user member => .iniziale ⟨d, stored, member⟩
  · exact fun mid final id d step entered user member => (entered user member).mono
      step.trace_subset
  intro mid final i x id d before step next trace earlier written user member
  have granted : Concesso (calls i) (mid.own i) x.op :=
    before.warranted (warranted_process (calls i)) next
  have includes : mid.trace ⊆ final.trace := step.trace_subset
  have made : (i, x) ∈ final.trace := trace ▸ List.mem_cons_self
  cases written with
  | aggiunto => exact .creazione i d granted made member
  | riscritto =>
    -- the participants are those of a document that the call has read
    obtain ⟨d', read, kept⟩ := granted
    have member' : d'.partecipa user := by rwa [Document.partecipa, ← kept]
    exact earlier id d' (.letto i (Config.mem_own.mp read)) user member'
  | modificato d' data known writes =>
    subst writes
    -- who leaves lets nobody in, and a join lets in one who has found the project by a code
    rcases granted with ⟨left, rfl⟩ | ⟨joined, codice, rfl, joins, docs, d, asked, listed⟩
    · exact earlier id d' known user (Document.partecipa_esce.mp member).1
    · rcases Document.partecipa_entra.mp member with rfl | already
      · exact .codice i codice docs d joins (includes (Config.mem_own.mp asked)) listed made
      · exact earlier id d' known user already

theorem codice_of_trovato (reach : Reaches network guard (start s calls) c)
    (wellFormed : ∀ id d, s.get .progetti id = some d → ∃ codice creazione,
      Chiave d codice creazione)
    {i : ι} {codice : String} {docs : List (String × Document)} {d d' : Document}
    (found : (i, ⟨opCerca codice, .ok docs⟩) ∈ c.trace) (listed : (id, d') ∈ docs)
    (stored : c.store.get .progetti id = some d) : d "codice" = some (.string codice) := by
  obtain ⟨asked, mid, first, later, stored'⟩ := trovato_moment reach found listed
  have named : d' "codice" = some (.string codice) := by simpa [Filter.holds] using asked
  -- both documents have the code that the project was born with
  have known : ∀ id data, Nato s mid.trace id data → Nato s c.trace id data := by
    intro id data born
    exact born.imp_right fun ⟨i, member⟩ => ⟨i, later.trace_subset member⟩
  obtain ⟨data, code, creazione, born, key, now⟩ :=
    stored_nato reach wellFormed (fun _ _ born => born) stored
  obtain ⟨data', code', creazione', born', key', before⟩ :=
    stored_nato first wellFormed known stored'
  cases born.unique reach born'
  obtain ⟨rfl, -⟩ := key.unique key'
  rw [now.codice, ← before.codice, named]

end

/-- Nobody enters without the code: whoever takes part in a stored project did so at the
start, or was put there by its creation, or has joined it with the code that it has. -/
theorem nobody_enters_without_the_code {ι : Type} [DecidableEq ι] {calls : ι → TeamCall} {s : Store}
    {guard : Config ι firestore Thrown Store Unit → ι → Prop}
    {c : Config ι firestore Thrown Store Unit}
    (reach : Reaches network guard (start s calls) c)
    (wellFormed : ∀ id d, s.get .progetti id = some d → ∃ codice creazione,
      Chiave d codice creazione)
    {id user : String} {d : Document} (stored : c.store.get .progetti id = some d)
    (member : d.partecipa user) :
    s.partecipa id user ∨
    (∃ i data, (calls i).crea = some data ∧ (i, ⟨.add .progetti data, .ok id⟩) ∈ c.trace ∧
      data.partecipa user) ∨
    ∃ i codice, calls i = .suProgetto (.membro (.unisciti user codice)) ∧
      (i, ⟨opUnisciti user id, .ok ()⟩) ∈ c.trace ∧ d "codice" = some (.string codice) := by
  cases ingresso_of_conosciuto reach (.conservato stored) user member with
  | iniziale before => exact .inl before
  | creazione i data creates made put => exact .inr (.inl ⟨i, data, creates, made, put⟩)
  | codice i codice docs d' joins found listed written =>
    exact .inr (.inr ⟨i, codice, joins, written,
      codice_of_trovato reach wellFormed found listed stored⟩)

/-! ## Bruno joins while anna edits -/

/-- Bruno takes part in the end, and has joined with the code of the project. -/
theorem nobody_enters_without_the_code_bruno : ∃ c d,
    (start .empty dueUnioni).run network
      [(.creatrice, .inr "p"), (.creatrice, .inr ""), (.unione, .inr ""), (.unione, .inr ""),
        (.unione, .inr ""), (.modifica, .inr ""), (.modifica, .inr "")] = some c ∧
    c.store.get .progetti "p" = some d ∧ d.partecipa "bruno" ∧
    (Store.empty.partecipa "p" "bruno" ∨
    (∃ i data, (dueUnioni i).crea = some data ∧ (i, ⟨.add .progetti data, .ok "p"⟩) ∈ c.trace ∧
      data.partecipa "bruno") ∨
    ∃ i codice, dueUnioni i = .suProgetto (.membro (.unisciti "bruno" codice)) ∧
      (i, ⟨opUnisciti "bruno" "p", .ok ()⟩) ∈ c.trace ∧ d "codice" = some (.string codice)) := by
  obtain ⟨c, ran⟩ : ∃ c, (start .empty dueUnioni).run network
      [(.creatrice, .inr "p"), (.creatrice, .inr ""), (.unione, .inr ""), (.unione, .inr ""),
        (.unione, .inr ""), (.modifica, .inr ""), (.modifica, .inr "")] = some c := ⟨_, rfl⟩
  obtain ⟨d, stored, member⟩ : ∃ d, c.store.get .progetti "p" = some d ∧ d.partecipa "bruno" := by
    cases ran
    refine ⟨_, rfl, ?_⟩
    unfold Document.partecipa
    decide
  refine ⟨c, d, ran, stored, member, nobody_enters_without_the_code
    (.of_run _ ran (Config.along_anyStep _ _)) ?_ stored member⟩
  intro id d found
  cases found

end TeamSync.Team
