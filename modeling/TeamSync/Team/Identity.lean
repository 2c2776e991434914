import TeamSync.Team.Documents

/-! What a project keeps for ever: its sharing code and its date of creation. -/

set_option autoImplicit false

namespace TeamSync.Team

open Effects Projects

structure Chiave (d : Document) (codice : String) (creazione : Timestamp) : Prop where
  codice : d "codice" = some (.string codice)
  creazione : d "dataCreazione" = some (.timestamp creazione)

section
variable {d : Document} {codice : String} {creazione : Timestamp}

theorem Chiave.unique {codice' : String} {creazione' : Timestamp} (key : Chiave d codice creazione)
    (key' : Chiave d codice' creazione') : codice = codice' ∧ creazione = creazione' := by
  have sameCode := key.codice.symm.trans key'.codice
  have sameDate := key.creazione.symm.trans key'.creazione
  cases sameCode
  cases sameDate
  exact ⟨rfl, rfl⟩

theorem chiave_entra (user : String) (key : Chiave d codice creazione) :
    Chiave (d.entra user) codice creazione := by
  constructor <;> rw [Document.entra, Document.writes_one, Function.update_of_ne (by decide)]
  exacts [key.codice, key.creazione]

theorem chiave_esce (user : String) (key : Chiave d codice creazione) :
    Chiave (d.esce user) codice creazione := by
  constructor <;> rw [Document.esce, Document.writes_one, Function.update_of_ne (by decide)]
  exacts [key.codice, key.creazione]

theorem chiave_modificato {id : String} {progetto : Progetto} (key : Chiave d codice creazione)
    (decodes : Progetto.Decodes id d progetto) (nome descrizione : String)
    (dataScadenza : DateTime) (priorita : Priorita) (completato : Bool) (voto : String)
    (dataConsegna : DateTime) :
    Chiave (RepositoryProgetto.aggiornaProgettoMap (modificato progetto nome descrizione
      dataScadenza priorita completato voto dataConsegna)) codice creazione := by
  have sameCode : progetto.codice = codice := by
    have read := decodes.codice
    rw [key.codice] at read
    cases read
    rfl
  have sameDate : Timestamp.fromDate progetto.dataCreazione = creazione := by
    obtain ⟨t, read, date⟩ := decodes.dataCreazione
    rw [key.creazione] at read
    cases read
    rw [date]
    rfl
  exact ⟨congrArg (fun code => some (Value.string code)) sameCode,
    congrArg (fun date => some (Value.timestamp date)) sameDate⟩

end

def comeNati (nato : String → Document → Prop) : Regola where
  vale c id d := c = .progetti → ∃ data codice creazione, nato id data ∧
    Chiave data codice creazione ∧ Chiave d codice creazione
  nuovo d := ∃ codice creazione, Chiave d codice creazione
  entra user good same :=
    have ⟨data, codice, creazione, born, first, now⟩ := good same
    ⟨data, codice, creazione, born, first, chiave_entra user now⟩
  esce user good same :=
    have ⟨data, codice, creazione, born, first, now⟩ := good same
    ⟨data, codice, creazione, born, first, chiave_esce user now⟩
  modifica good decodes _ _ _ _ _ _ _ same :=
    have ⟨data, codice, creazione, born, first, now⟩ := good same
    ⟨data, codice, creazione, born, first, chiave_modificato now decodes ..⟩
  attivita _ _ tasks := by cases tasks
  completa _ _ tasks := by cases tasks
  assegna _ _ tasks := by cases tasks

theorem chiave_of_crea {call : TeamCall} {data : Document} (creates : call.crea = some data) :
    ∃ codice creazione, Chiave data codice creazione := by
  cases call with
  | addProgetto =>
    cases creates
    exact ⟨_, _, rfl, rfl⟩
  | _ => cases creates

/-! ## The first document of a project -/

section
variable {ι : Type} [DecidableEq ι] {calls : ι → TeamCall} {s : Store}
  {guard : Config ι firestore Thrown Store Unit → ι → Prop}
  {c mid final : Config ι firestore Thrown Store Unit} {id : String} {data data' : Document}

def Nato (s : Store) (trace : List (ι × Exchange firestore Thrown)) (id : String)
    (data : Document) : Prop :=
  s.get .progetti id = some data ∨ ∃ i, (i, ⟨.add .progetti data, .ok id⟩) ∈ trace

theorem Nato.of_step {i : ι} {choice : network.Choice}
    (stepped : mid.step network i choice = some final) (born : Nato s final.trace id data) :
    Nato s mid.trace id data ∨
      ¬ mid.store.Used .progetti id ∧ final.store.Used .progetti id ∧
        final.trace = (i, ⟨.add .progetti data, .ok id⟩) :: mid.trace := by
  obtain ⟨op, next, reply, -, answered, -, trace⟩ := Config.step_cases stepped
  rcases born with stored | ⟨j, member⟩
  · exact .inl (.inl stored)
  rw [trace] at member
  rcases List.mem_cons.mp member with same | earlier
  · cases same
    rcases network_add answered with ⟨e, failed, -⟩ | ⟨newId, fresh, same, store⟩
    · cases failed
    · cases same
      refine .inr ⟨fresh, ?_, trace⟩
      rw [store]
      exact Store.used_of_get (Store.get_put_self _ _ _ _)
  · exact .inl (.inr ⟨j, earlier⟩)

theorem Nato.used (reach : Reaches network guard (start s calls) c)
    (born : Nato s c.trace id data) :
    c.store.Used .progetti id := by
  induction reach with
  | refl =>
    rcases born with stored | ⟨i, member⟩
    · exact Store.used_of_get stored
    · cases member
  | step _ _ stepped ih =>
    rcases born.of_step stepped with earlier | ⟨-, used, -⟩
    · obtain ⟨op, next, reply, -, answered, -, -⟩ := Config.step_cases stepped
      exact (ih earlier).network answered
    · exact used

theorem Nato.unique (reach : Reaches network guard (start s calls) c)
    (born : Nato s c.trace id data) (born' : Nato s c.trace id data') : data = data' := by
  induction reach with
  | refl =>
    rcases born with stored | ⟨i, member⟩
    · rcases born' with stored' | ⟨i, member⟩
      · exact Option.some.inj (stored.symm.trans stored')
      · cases member
    · cases member
  | step before _ stepped ih =>
    rcases born.of_step stepped with earlier | ⟨fresh, -, trace⟩
    · rcases born'.of_step stepped with earlier' | ⟨fresh, -, -⟩
      · exact ih earlier earlier'
      · exact absurd (earlier.used before) fresh
    · rcases born'.of_step stepped with earlier' | ⟨-, -, trace'⟩
      · exact absurd (earlier'.used before) fresh
      · -- both are the exchange of this step
        cases trace.symm.trans trace'
        rfl

theorem stored_nato (reach : Reaches network guard (start s calls) c)
    (wellFormed : ∀ id d, s.get .progetti id = some d → ∃ codice creazione,
      Chiave d codice creazione)
    {nato : String → Document → Prop}
    (includes : ∀ id data, Nato s c.trace id data → nato id data) {d : Document}
    (stored : c.store.get .progetti id = some d) :
    ∃ data codice creazione, nato id data ∧ Chiave data codice creazione ∧
      Chiave d codice creazione := by
  have initial : (comeNati nato).invariante s := by
    rintro collection id d found rfl
    obtain ⟨codice, creazione, key⟩ := wellFormed id d found
    exact ⟨d, codice, creazione, includes id d (.inl found), key, key⟩
  have admits : ∀ x ∈ c.trace, (comeNati nato).ammesso x.2 := by
    rintro ⟨i, x⟩ member data id rfl ⟨codice, creazione, key⟩ _
    exact ⟨data, codice, creazione, includes id data (.inr ⟨i, member⟩), key, key⟩
  exact stored_documents_vale reach initial (fun i data => chiave_of_crea) admits .progetti id d
    stored rfl

end

/-- Any two documents that are stored for one project, at any two moments of a
run, have the same code and the same instant of creation. -/
theorem code_and_creation_date_kept {ι : Type} [DecidableEq ι] {calls : ι → TeamCall} {s : Store}
    (wellFormed : ∀ id d, s.get .progetti id = some d → ∃ codice creazione,
      Chiave d codice creazione)
    {c₁ c₂ : Config ι firestore Thrown Store Unit}
    (first : Reaches network Config.anyStep (start s calls) c₁)
    (later : Reaches network Config.anyStep c₁ c₂) {id : String} {d₁ d₂ : Document}
    (stored₁ : c₁.store.get .progetti id = some d₁)
    (stored₂ : c₂.store.get .progetti id = some d₂) :
    ∃ codice creazione, Chiave d₁ codice creazione ∧ Chiave d₂ codice creazione := by
  have known : ∀ id data, Nato s c₁.trace id data → Nato s c₂.trace id data := by
    intro id data born
    exact born.imp_right fun ⟨i, member⟩ => ⟨i, later.trace_subset member⟩
  obtain ⟨data, codice, creazione, born, key, key₁⟩ := stored_nato first wellFormed known stored₁
  obtain ⟨data', codice', creazione', born', key', key₂⟩ :=
    stored_nato (first.trans later) wellFormed (fun _ _ born => born) stored₂
  cases born.unique (first.trans later) born'
  obtain ⟨rfl, rfl⟩ := key.unique key'
  exact ⟨_, _, key₁, key₂⟩

/-! ## An edit that comes after the deletion -/

inductive Autore where
  | creatrice
  | abbandono
  | modifica
  deriving DecidableEq

def suUnProgetto : Autore → TeamCall
  | .creatrice => .addProgetto ⟨none, [], some "anna", [], false⟩ ⟨0, true⟩ "x"
      "01234567-89ab-4cde-8f01-23456789abcd" "Tesi" "" ⟨microsPerDay, false⟩ .media ["anna"]
  | .abbandono => .suProgetto (.membro (.abbandona (some "anna") "p"))
  | .modifica => .suProgetto (.aggiorna ⟨none, [], none, [], false⟩ "p" "Tesi magistrale" ""
      ⟨microsPerDay, false⟩ .media true "30" ⟨microsPerDay, false⟩)

/-- The edit has read the project, stores it again, and the code is the same. -/
theorem code_and_creation_date_kept_anna :
    ∃ c₁ c₂ : Config Autore firestore Thrown Store Unit, ∃ d₁ d₂,
      (start .empty suUnProgetto).run network [(.creatrice, .inr "p")] = some c₁ ∧
      c₁.run network [(.modifica, .inr ""), (.abbandono, .inr ""), (.abbandono, .inr ""),
        (.abbandono, .inr ""), (.abbandono, .inr ""), (.modifica, .inr "")] = some c₂ ∧
      c₁.store.get .progetti "p" = some d₁ ∧ c₂.store.get .progetti "p" = some d₂ ∧
      ∃ codice creazione, Chiave d₁ codice creazione ∧ Chiave d₂ codice creazione := by
  obtain ⟨c₁, first⟩ : ∃ c₁, (start .empty suUnProgetto).run network
      [(.creatrice, .inr "p")] = some c₁ := ⟨_, rfl⟩
  obtain ⟨c₂, second⟩ : ∃ c₂, c₁.run network [(.modifica, .inr ""), (.abbandono, .inr ""),
      (.abbandono, .inr ""), (.abbandono, .inr ""), (.abbandono, .inr ""), (.modifica, .inr "")] =
      some c₂ := by
    cases first
    exact ⟨_, rfl⟩
  obtain ⟨d₁, stored₁⟩ : ∃ d₁, c₁.store.get .progetti "p" = some d₁ := by
    cases first
    exact ⟨_, rfl⟩
  obtain ⟨d₂, stored₂⟩ : ∃ d₂, c₂.store.get .progetti "p" = some d₂ := by
    cases first
    cases second
    exact ⟨_, rfl⟩
  refine ⟨c₁, c₂, d₁, d₂, first, second, stored₁, stored₂,
    code_and_creation_date_kept ?_ (.of_run _ first (Config.along_anyStep _ _))
      (.of_run _ second (Config.along_anyStep _ _)) stored₁ stored₂⟩
  intro id d found
  cases found

end TeamSync.Team
