import TeamSync.Projects.Calls

/-! What one step of a call on projects can do. -/

set_option autoImplicit false

namespace TeamSync.Projects

open Effects

abbrev Reads {A : Type} (p : App A) : Prop := p.OnlyCalls fun op : Op => op.isRead = true

theorem reads_query {A : Type} {c : CollectionName} {filters : List Filter}
    {f : List (String × Document) → App A} (rest : ∀ docs, Reads (f docs)) :
    Reads ((query c filters).bind f) :=
  .bind (.perform rfl) rest

theorem reads_contaAttivita (progetti : List Progetto) :
    Reads (ProgettoViewModel.contaAttivita progetti) := by
  induction progetti with
  | nil => trivial
  | cons progetto rest ih =>
    exact .bind (.rescue (reads_query fun _ => trivial) fun _ => trivial) fun _ =>
      .bind ih fun _ => trivial

theorem reads_ricarica (vm : ProgettoViewModel) : Reads (ricarica vm) := by
  unfold ricarica
  split
  · exact .bind (.bind (.rescue (reads_query fun _ => .ofExcept _) fun _ => trivial) fun progetti =>
      .bind (reads_contaAttivita progetti) fun _ => trivial) fun _ => trivial
  · trivial

/-- The points of a call. -/
inductive ProjectCall.At : ProjectCall → App Result → Prop where
  | cerca {u codice : String} : At (.membro (.unisciti u codice)) (cerca u codice)
  | elenca {u codice : String} {found : Option String} :
      At (.membro (.unisciti u codice)) (elenca u found)
  | iscrivi {u codice id : String} : At (.membro (.unisciti u codice)) (iscrivi u id)
  | verifica {u id : String} : At (.membro (.abbandona (some u) id)) (verifica u id)
  | rimuovi {u id : String} : At (.membro (.abbandona (some u) id)) (rimuovi u id)
  | leggi {u id : String} : At (.membro (.abbandona (some u) id)) (leggi id)
  | elimina {u id : String} : At (.membro (.abbandona (some u) id)) (elimina id)
  | annuncia {u id : String} {eliminato : Bool} :
      At (.membro (.abbandona (some u) id)) (annuncia eliminato)
  | carica {vm : ProgettoViewModel} {id nome descrizione : String} {dataScadenza : DateTime}
      {priorita : Priorita} {completato : Bool} {voto : String} {dataConsegna : DateTime} :
      At (.aggiorna vm id nome descrizione dataScadenza priorita completato voto dataConsegna)
        (carica vm id nome descrizione dataScadenza priorita completato voto dataConsegna)
  | scrivi {vm : ProgettoViewModel} {id nome descrizione : String} {dataScadenza : DateTime}
      {priorita : Priorita} {completato : Bool} {voto : String} {dataConsegna : DateTime}
      {progetto : Progetto} :
      At (.aggiorna vm id nome descrizione dataScadenza priorita completato voto dataConsegna)
        (scrivi vm id progetto)
  | letture {call : ProjectCall} {p : App Result} : Reads p → At call p

theorem ProjectCall.at_process (call : ProjectCall) : call.At call.process := by
  match call with
  | .membro (.unisciti userId codice) =>
    rw [ProjectCall.process, unisciti_process]
    exact .cerca
  | .membro (.abbandona (some userId) progettoId) =>
    rw [ProjectCall.process, abbandona_process]
    exact .verifica
  | .membro (.abbandona none progettoId) => exact .letture trivial
  | .aggiorna .. =>
    rw [aggiorna_process]
    exact .carica

theorem ProjectCall.isRead_of_process {call : ProjectCall} {op : Op}
    (head : call.process.nextOp = some op) :
    op.isRead = true := by
  match call with
  | .membro (.unisciti userId codice) =>
    rw [ProjectCall.process, unisciti_process] at head
    cases head
    rfl
  | .membro (.abbandona (some userId) progettoId) =>
    rw [ProjectCall.process, abbandona_process] at head
    cases head
    rfl
  | .membro (.abbandona none progettoId) => cases head
  | .aggiorna .. =>
    rw [aggiorna_process] at head
    cases head
    rfl

def Deserto (s : Store) (id : String) : Prop :=
  ∀ d, s.get .progetti id = some d → d.partecipanti = []

def Scritto (x : Exchange firestore Thrown) : Prop :=
  x.op.isWrite = true ∧ ∃ answer, x.reply = .ok answer

/-- Everything a step of a call can do, on a network. -/
inductive ProjectCall.Moved (call : ProjectCall) (s : Store) (p : App Result)
    (x : Exchange firestore Thrown) (p' : App Result) (s' : Store) : Prop where
  -- nothing was written, and what the call does next rests on what it has just read
  | letto (quiet : ¬ Scritto x)
      (deletes : ∀ id, p'.nextOp = some (.delete .progetti id) → Deserto s id)
      (writes : ∀ id data, p'.nextOp = some (.set .progetti id data) → ∃ d,
        x = ⟨.get .progetti id, .ok (some d)⟩ ∧ s.get .progetti id = some d ∧
          data.partecipanti = d.partecipanti)
      (announces : p'.nextOp ≠ some (.callback true)) (store : s' = s)
  | entrato {u codice id : String} {d : Document} (joins : call = .membro (.unisciti u codice))
      (point : p = iscrivi u id) (found : s.get .progetti id = some d)
      (exchange : x = ⟨opUnisciti u id, .ok ()⟩)
      (next : p' = .done (.unito (true, none))) (store : s' = s.put .progetti id (d.entra u))
  | uscito {u id : String} {d : Document} (leaves : call = .membro (.abbandona (some u) id))
      (point : p = rimuovi u id) (found : s.get .progetti id = some d)
      (exchange : x = ⟨opAbbandona u id, .ok ()⟩)
      (next : p' = leggi id) (store : s' = s.put .progetti id (d.esce u))
  | eliminato {u id : String} (leaves : call = .membro (.abbandona (some u) id))
      (point : p = elimina id) (exchange : x = ⟨.delete .progetti id, .ok ()⟩)
      (next : p' = annuncia true) (store : s' = s.erase .progetti id)
  | modificato {vm : ProgettoViewModel} {id nome descrizione : String} {dataScadenza : DateTime}
      {priorita : Priorita} {completato : Bool} {voto : String} {dataConsegna : DateTime}
      {data : Document}
      (edits : call = .aggiorna vm id nome descrizione dataScadenza priorita completato voto
        dataConsegna)
      (point : p.nextOp = some (.set .progetti id data))
      (exchange : x = ⟨.set .progetti id data, .ok ()⟩)
      (reads : Reads p') (store : s' = s.put .progetti id data)

section
variable {call : ProjectCall} {s final : Store} {op : Op} {reply : Reply firestore Thrown op}
  {choice : network.Choice} {p p' : App Result}

theorem not_scritto_of_not_isWrite (quiet : op.isWrite = false) : ¬ Scritto ⟨op, reply⟩ := by
  rintro ⟨write, -⟩
  exact absurd (write.symm.trans quiet) (by decide)

theorem not_scritto_error {e : Thrown} : ¬ Scritto ⟨op, .error e⟩ := by
  rintro ⟨-, _, same⟩
  cases same

def Innocua : Op → Prop
  | .delete _ _ | .set _ _ _ | .callback true => False
  | _ => True

theorem ProjectCall.Moved.letto_innocua {x : Exchange firestore Thrown} (quiet : ¬ Scritto x)
    (harmless : ∀ op', p'.nextOp = some op' → Innocua op') : call.Moved s p x p' s :=
  .letto quiet (fun _ head => (harmless _ head).elim) (fun _ _ head => (harmless _ head).elim)
    (fun head => harmless _ head) rfl

theorem innocua_of_reads (reads : Reads p') (op' : Op) (head : p'.nextOp = some op') :
    Innocua op' := by
  cases p' with
  | done a => cases head
  | raise e => cases head
  | call first next =>
    cases head
    have read := reads.1
    cases op' <;> trivial

theorem moved_fallito {e : Thrown} (rest : Reads p') :
    call.At p' ∧ call.Moved s p ⟨op, .error e⟩ p' s :=
  ⟨.letture rest, .letto_innocua not_scritto_error (innocua_of_reads rest)⟩

theorem moved_letto (quiet : op.isWrite = false) (rest : Reads p') :
    call.At p' ∧ call.Moved s p ⟨op, reply⟩ p' s :=
  ⟨.letture rest, .letto_innocua (not_scritto_of_not_isWrite quiet) (innocua_of_reads rest)⟩

end

theorem valuta_at (u codice : String) (found : Option String) (progettiUtente : List Progetto) :
    ProjectCall.At (.membro (.unisciti u codice)) (valuta u found progettiUtente) ∧
      ∀ op, (valuta u found progettiUtente).nextOp = some op → Innocua op := by
  cases found with
  | none => exact ⟨.letture trivial, innocua_of_reads trivial⟩
  | some id =>
    simp only [valuta]
    split
    · exact ⟨.letture trivial, innocua_of_reads trivial⟩
    · exact ⟨.iscrivi, by rintro _ ⟨⟩; trivial⟩

theorem partecipanti_of_partecipantiDi {d : Document} {xs : List String}
    (read : RepositoryProgetto.partecipantiDi d = .ok xs) : d.partecipanti = xs.map .string := by
  simp only [RepositoryProgetto.partecipantiDi] at read
  split at read
  · cases read
  · next v field => exact Document.partecipanti_of_asStrings (field ▸ read)

theorem Progetto.partecipanti_of_decodes {id : String} {d : Document} {progetto : Progetto}
    (decodes : progetto.Decodes id d) : d.partecipanti = progetto.partecipanti.map .string :=
  Document.partecipanti_of_asStrings decodes.partecipanti

theorem decidi_at (u id : String) (read : Except Thrown (List String)) :
    ProjectCall.At (.membro (.abbandona (some u) id)) (decidi id read) ∧
      (∀ op, (decidi id read).nextOp = some op → Innocua op ∨ op = .delete .progetti id ∧
        read = .ok []) := by
  cases read with
  | error e => exact ⟨.letture trivial, fun op head => by cases head⟩
  | ok xs =>
    cases xs with
    | nil => exact ⟨.elimina, by rintro _ ⟨⟩; exact .inr ⟨rfl, rfl⟩⟩
    | cons x xs => exact ⟨.annuncia, by rintro _ ⟨⟩; exact .inl trivial⟩

theorem ProjectCall.Moved.decidi {call : ProjectCall} {s : Store} {id : String} {p : App Result}
    {x : Exchange firestore Thrown} {read : Except Thrown (List String)} (quiet : ¬ Scritto x)
    (empty : read = .ok [] → Deserto s id) : call.Moved s p x (decidi id read) s := by
  have nexts := (decidi_at "" id read).2
  refine .letto quiet (fun id' head => ?_) (fun id' data head => ?_) (fun head => ?_) rfl
  · rcases nexts _ head with harmless | ⟨same, read⟩
    · exact harmless.elim
    · cases same
      exact empty read
  · rcases nexts _ head with harmless | ⟨same, -⟩
    · exact harmless.elim
    · cases same
  · rcases nexts _ head with harmless | ⟨same, -⟩
    · exact harmless
    · cases same

theorem ProjectCall.At.moved {call : ProjectCall} {p : App Result} {op : Op}
    {next : Reply firestore Thrown op → App Result} {s final : Store}
    {reply : Reply firestore Thrown op}
    {choice : network.Choice} (point : call.At p) (head : p = .call op next)
    (answered : network.exec choice op s = some (reply, final)) :
    call.At (next reply) ∧ call.Moved s p ⟨op, reply⟩ (next reply) final := by
  cases point with
  | cerca =>
    cases head
    cases network_of_not_isWrite rfl answered
    refine ⟨by cases reply <;> exact .elenca, .letto_innocua (not_scritto_of_not_isWrite rfl) ?_⟩
    cases reply <;> rintro _ ⟨⟩ <;> trivial
  | elenca =>
    cases head
    cases network_of_not_isWrite rfl answered
    cases reply with
    | ok docs =>
      exact ⟨(valuta_at _ _ _ _).1, .letto_innocua (not_scritto_of_not_isWrite rfl)
        (valuta_at _ "" _ _).2⟩
    | error e =>
      exact ⟨(valuta_at _ _ _ _).1, .letto_innocua not_scritto_error (valuta_at _ "" _ _).2⟩
  | iscrivi =>
    cases head
    rcases network_update answered with ⟨e, rfl, rfl⟩ | ⟨d, found, rfl, rfl⟩
    · exact moved_fallito trivial
    · exact ⟨.letture trivial, .entrato rfl rfl found rfl rfl rfl⟩
  | verifica =>
    cases head
    cases network_of_not_isWrite rfl answered
    rcases reply with e | _ | d
    · exact moved_fallito trivial
    · exact moved_letto rfl trivial
    · exact ⟨.rimuovi, .letto_innocua (not_scritto_of_not_isWrite rfl) (by rintro _ ⟨⟩; trivial)⟩
  | rimuovi =>
    cases head
    rcases network_update answered with ⟨e, rfl, rfl⟩ | ⟨d, found, rfl, rfl⟩
    · exact moved_fallito trivial
    · exact ⟨.leggi, .uscito rfl rfl found rfl rfl rfl⟩
  | leggi =>
    cases head
    obtain ⟨rfl, stored⟩ := network_get answered
    rcases reply with e | _ | d
    · exact moved_fallito trivial
    -- a missing project counts as one without participants
    · refine ⟨(decidi_at _ _ _).1, .decidi (not_scritto_of_not_isWrite rfl) fun _ d found => ?_⟩
      cases (stored _ rfl).trans found
    · refine ⟨(decidi_at _ _ _).1, .decidi
        (not_scritto_of_not_isWrite rfl) fun empty d' found => ?_⟩
      cases (stored _ rfl).trans found
      exact partecipanti_of_partecipantiDi empty
  | elimina =>
    cases head
    rcases network_delete answered with ⟨e, rfl, rfl⟩ | ⟨rfl, rfl⟩
    · exact moved_fallito trivial
    · exact ⟨.annuncia, .eliminato rfl rfl rfl rfl rfl⟩
  | annuncia =>
    cases head
    cases network_of_not_isWrite rfl answered
    cases reply with
    | error e =>
      exact moved_fallito trivial
    | ok _ =>
      exact moved_letto rfl trivial
  | carica =>
    cases head
    obtain ⟨rfl, stored⟩ := network_get answered
    rcases reply with e | _ | d
    · exact moved_fallito trivial
    · exact moved_letto rfl trivial
    simp only
    split
    · next progetto read =>
      have same := Progetto.partecipanti_of_decodes (Progetto.fromFirestore_eq_ok.mp read)
      -- `copyWith` keeps the participants
      refine ⟨.scrivi, .letto (not_scritto_of_not_isWrite rfl) (by rintro _ ⟨⟩) ?_
        (by rintro ⟨⟩) rfl⟩
      rintro _ _ ⟨⟩
      exact ⟨d, rfl, (stored _ rfl).symm, same.symm⟩
    · exact moved_letto rfl trivial
  | scrivi =>
    cases head
    rcases network_set answered with ⟨e, rfl, rfl⟩ | ⟨rfl, rfl⟩
    · exact moved_fallito trivial
    · exact ⟨.letture (reads_ricarica _), .modificato rfl rfl rfl (reads_ricarica _) rfl⟩
  | letture reads =>
    cases head
    have quiet := Op.isWrite_of_isRead reads.1
    cases network_of_not_isWrite quiet answered
    exact moved_letto quiet (reads.2 reply)

end TeamSync.Projects
