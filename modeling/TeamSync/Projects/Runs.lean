import TeamSync.Projects.Moves
import TeamSync.Tasks.Runs

/-! What complete runs of the calls on projects leave in the database, on a network. -/

set_option autoImplicit false

namespace TeamSync.Projects

open Effects RepositoryProgetto

variable {s final : Store} {calls : List (Exchange firestore Thrown)} {out : Except Thrown Result}

theorem Reads.quiet {A : Type} {p : App A} (reads : Reads p) : Quiet p := by
  induction p with
  | done a => trivial
  | raise e => trivial
  | call op next ih => exact ⟨Op.isWrite_of_isRead reads.1, fun reply => ih reply (reads.2 reply)⟩

theorem quiet_annuncia (eliminato : Bool) : Quiet (annuncia eliminato) :=
  ⟨rfl, fun reply => by cases reply <;> trivial⟩

/-! ## Joining -/

section
open ProgettoViewModel

abbrev Risposta := Except Thrown (List (String × Document))

abbrev opCerca (codice : String) : Op := .query .progetti [.isEqualTo "codice" (.string codice)]

abbrev opElenca (u : String) : Op := .query .progetti [.arrayContains "partecipanti" (.string u)]

def trovato : Risposta → Option String
  | .ok docs => docs.head?.map Prod.fst
  | .error _ => none

def propri : Risposta → List String
  | .ok docs => convertiProgettiInId
      ((docs.mapM fun doc => Progetto.fromFirestore doc.1 doc.2).toOption.getD [])
  | .error _ => []

/-- The ways in which a join ends after its two queries. -/
inductive Adesione (u : String) (s : Store) (codici miei : Risposta) :
    List (Exchange firestore Thrown) → Bool × Option String → Store → Prop where
  | sconosciuto {errore : String} (unfound : trovato codici = none) :
      Adesione u s codici miei [] (false, some errore) s
  | giaParte {id errore : String} (found : trovato codici = some id) (listed : id ∈ propri miei) :
      Adesione u s codici miei [] (false, some errore) s
  | nonScritta {id errore : String} {e : Thrown} (found : trovato codici = some id)
      (unlisted : id ∉ propri miei) :
      Adesione u s codici miei [⟨opUnisciti u id, .error e⟩] (false, some errore) s
  | scritta {id : String} {d : Document} (found : trovato codici = some id)
      (unlisted : id ∉ propri miei) (stored : s.get .progetti id = some d) :
      Adesione u s codici miei [⟨opUnisciti u id, .ok ()⟩] (true, none)
        (s.put .progetti id (d.entra u))

variable {u codice : String} {codici miei : Risposta} {out : Except Thrown (Bool × Option String)}

theorem adesione_valuta {progettiUtente : List Progetto}
    (own : propri miei = convertiProgettiInId progettiUtente)
    (run : Runs network (valuta u (trovato codici) progettiUtente) s calls (out.map .unito) final) :
    ∃ answer, out = .ok answer ∧ Adesione u s codici miei calls answer final := by
  -- every point after the queries ends with an answer
  have answered : ∀ {answer}, out.map Result.unito = .ok (.unito answer) → out = .ok answer := by
    intro answer same
    cases out with
    | error e => cases same
    | ok other =>
      cases same
      rfl
  cases found : trovato codici with
  | none =>
    rw [found] at run
    obtain ⟨rfl, same, rfl⟩ := runs_done_iff.mp run
    exact ⟨_, answered same, .sconosciuto found⟩
  | some id =>
    rw [found] at run
    simp only [valuta, utentePartecipa, List.contains_iff_mem, ← own] at run
    split at run
    · next listed =>
      obtain ⟨rfl, same, rfl⟩ := runs_done_iff.mp run
      exact ⟨_, answered same, .giaParte found listed⟩
    · next unlisted =>
      obtain ⟨choice, reply, mid, rest, updated, after, rfl⟩ := runs_call_iff.mp run
      rcases network_update updated with ⟨e, rfl, rfl⟩ | ⟨d, stored, rfl, rfl⟩
      · obtain ⟨rfl, same, rfl⟩ := runs_done_iff.mp after
        exact ⟨_, answered same, .nonScritta found unlisted⟩
      · obtain ⟨rfl, same, rfl⟩ := runs_done_iff.mp after
        exact ⟨_, answered same, .scritta found unlisted stored⟩

theorem runs_adesione
    (run : Runs network (aggiungiPartecipanteConCodice u codice) s calls out final) :
    ∃ codici miei rest answer,
      calls = ⟨opCerca codice, codici⟩ :: ⟨opElenca u, miei⟩ :: rest ∧
      (∀ docs, codici = .ok docs →
        docs = s.trovati .progetti [.isEqualTo "codice" (.string codice)]) ∧
      (∀ docs, miei = .ok docs →
        docs = s.trovati .progetti [.arrayContains "partecipanti" (.string u)]) ∧
      out = .ok answer ∧ Adesione u s codici miei rest answer final := by
  have searched : Runs network (cerca u codice) s calls (out.map .unito) final := by
    rw [← unisciti_process]
    exact runs_map_iff.mpr ⟨out, run, rfl⟩
  obtain ⟨choice, codici, mid, rest, answered, listed, rfl⟩ := runs_call_iff.mp searched
  cases network_of_not_isWrite rfl answered
  have listed : Runs network (elenca u (trovato codici)) s rest (out.map .unito) final := by
    cases codici <;> exact listed
  obtain ⟨choice', miei, mid', rest', answered', valued, rfl⟩ := runs_call_iff.mp listed
  cases network_of_not_isWrite rfl answered'
  have ended : ∃ answer, out = .ok answer ∧ Adesione u s codici miei rest' answer final := by
    cases miei <;> exact adesione_valuta rfl valued
  obtain ⟨answer, same, ended⟩ := ended
  refine ⟨codici, miei, rest', answer, rfl, ?_, ?_, same, ended⟩
  · rintro docs rfl
    exact network_query_ok answered
  · rintro docs rfl
    exact network_query_ok answered'

end

theorem runs_unisciti {u codice : String}
    (run : Runs network (MembershipCall.unisciti u codice).process s calls out final) :
    final = s ∨ ∃ id d, s.get .progetti id = some d ∧ final = s.put .progetti id (d.entra u) := by
  obtain ⟨o, ran, -⟩ := runs_map_iff.mp run
  obtain ⟨codici, miei, rest, answer, rfl, -, -, rfl, ended⟩ := runs_adesione ran
  cases ended with
  | sconosciuto | giaParte | nonScritta => exact .inl rfl
  | @scritta id d _ _ stored => exact .inr ⟨id, d, stored, rfl⟩

/-! ## Leaving -/

abbrev finoAllaRimozione (u id : String) (d : Document) (rest : List (Exchange firestore Thrown)) :
    List (Exchange firestore Thrown) :=
  ⟨.get .progetti id, .ok (some d)⟩ :: ⟨opAbbandona u id, .ok ()⟩ :: rest

abbrev finoAllaLettura (u id : String) (d : Document) (rest : List (Exchange firestore Thrown)) :
    List (Exchange firestore Thrown) :=
  finoAllaRimozione u id d (⟨.get .progetti id, .ok (some (d.esce u))⟩ :: rest)

/-- The ways in which a leave ends, each with its calls. -/
inductive Abbandono (u id : String) (s : Store) :
    List (Exchange firestore Thrown) → Except Thrown Unit → Store → Prop where
  | nonTrovato {reply : Reply firestore Thrown (.get .progetti id)} {e : Thrown} :
      Abbandono u id s [⟨.get .progetti id, reply⟩] (.error e) s
  | nonRimosso {d : Document} {e e' : Thrown} :
      Abbandono u id s [⟨.get .progetti id, .ok (some d)⟩, ⟨opAbbandona u id, .error e⟩] (.error e')
        s
  | nonRiletto {d : Document} {e e' : Thrown} (found : s.get .progetti id = some d) :
      Abbandono u id s (finoAllaRimozione u id d [⟨.get .progetti id, .error e⟩]) (.error e')
        (s.put .progetti id (d.esce u))
  | illeggibile {d : Document} {e : Thrown} (found : s.get .progetti id = some d)
      (unread : ∀ xs, partecipantiDi (d.esce u) ≠ .ok xs) :
      Abbandono u id s (finoAllaLettura u id d []) (.error e) (s.put .progetti id (d.esce u))
  | rimasto {d : Document} {xs : List String} {reply out : Except Thrown Unit}
      (found : s.get .progetti id = some d) (read : partecipantiDi (d.esce u) = .ok xs)
      (some : xs ≠ []) (told : out.isOk = reply.isOk) :
      Abbandono u id s (finoAllaLettura u id d [⟨.callback false, reply⟩]) out
        (s.put .progetti id (d.esce u))
  | nonEliminato {d : Document} {e e' : Thrown} (found : s.get .progetti id = some d)
      (read : partecipantiDi (d.esce u) = .ok []) :
      Abbandono u id s (finoAllaLettura u id d [⟨.delete .progetti id, .error e⟩]) (.error e')
        (s.put .progetti id (d.esce u))
  | eliminato {d : Document} {reply out : Except Thrown Unit} (found : s.get .progetti id = some d)
      (read : partecipantiDi (d.esce u) = .ok []) (told : out.isOk = reply.isOk) :
      Abbandono u id s
        (finoAllaLettura u id d [⟨.delete .progetti id, .ok ()⟩, ⟨.callback true, reply⟩]) out
        ((s.put .progetti id (d.esce u)).erase .progetti id)

section
variable {u id : String} {out : Except Thrown Unit}

theorem runs_fallito {e : Thrown}
    (run : Runs network (abbandonoFallito e) s calls (out.map fun _ => Result.finito) final) :
    calls = [] ∧ (∃ e', out = .error e') ∧ final = s := by
  obtain ⟨rfl, same, rfl⟩ := runs_raise_iff.mp run
  cases out with
  | ok _ => cases same
  | error e' => exact ⟨rfl, ⟨e', rfl⟩, rfl⟩

theorem runs_annuncia {eliminato : Bool}
    (run : Runs network (annuncia eliminato) s calls (out.map fun _ => Result.finito) final) :
    ∃ reply, calls = [⟨.callback eliminato, reply⟩] ∧ out.isOk = reply.isOk ∧ final = s := by
  obtain ⟨choice, reply, mid, rest, answered, after, rfl⟩ := runs_call_iff.mp run
  cases network_of_not_isWrite rfl answered
  refine ⟨reply, ?_⟩
  cases reply with
  | error e =>
    obtain ⟨rfl, ⟨e', rfl⟩, rfl⟩ := runs_fallito after
    exact ⟨rfl, rfl, rfl⟩
  | ok _ =>
    obtain ⟨rfl, same, rfl⟩ := runs_done_iff.mp after
    cases out with
    | error e => cases same
    | ok _ => exact ⟨rfl, rfl, rfl⟩

theorem runs_decidi {d : Document} (found : s.get .progetti id = some d)
    (run : Runs network (decidi id (partecipantiDi (d.esce u))) (s.put .progetti id (d.esce u))
      calls (out.map fun _ => Result.finito) final) :
    Abbandono u id s (finoAllaLettura u id d calls) out final := by
  cases read : partecipantiDi (d.esce u) with
  | error e =>
    rw [read] at run
    obtain ⟨rfl, ⟨e', rfl⟩, rfl⟩ := runs_fallito run
    exact .illeggibile found fun xs same => by cases read.symm.trans same
  | ok xs =>
    rw [read] at run
    simp only [decidi] at run
    split at run
    · next empty =>
      rw [List.isEmpty_iff.mp empty] at read
      obtain ⟨choice, reply, mid, rest, answered, after, rfl⟩ := runs_call_iff.mp run
      rcases network_delete answered with ⟨e, rfl, rfl⟩ | ⟨rfl, rfl⟩
      · obtain ⟨rfl, ⟨e', rfl⟩, rfl⟩ := runs_fallito after
        exact .nonEliminato found read
      · obtain ⟨reply, rfl, told, rfl⟩ := runs_annuncia after
        exact .eliminato found read told
    · next some =>
      obtain ⟨reply, rfl, told, rfl⟩ := runs_annuncia run
      exact .rimasto found read (fun none => some (List.isEmpty_iff.mpr none)) told

theorem runs_leggi {d : Document} (found : s.get .progetti id = some d)
    (run : Runs network (leggi id) (s.put .progetti id (d.esce u)) calls
      (out.map fun _ => Result.finito) final) :
    Abbandono u id s (finoAllaRimozione u id d calls) out final := by
  obtain ⟨choice, reply, mid, rest, answered, after, rfl⟩ := runs_call_iff.mp run
  obtain ⟨rfl, stored⟩ := network_get answered
  rcases reply with e | doc
  · obtain ⟨rfl, ⟨e', rfl⟩, rfl⟩ := runs_fallito after
    exact .nonRiletto found
  · cases stored doc rfl
    rw [Store.get_put_self] at after ⊢
    exact runs_decidi found after

theorem runs_abbandonaProgetto
    (run : Runs network (abbandonaProgetto (some u) id) s calls out final) :
    Abbandono u id s calls out final := by
  have verified : Runs network (verifica u id) s calls (out.map fun _ => Result.finito) final := by
    rw [← abbandona_process]
    exact runs_map_iff.mpr ⟨out, run, rfl⟩
  obtain ⟨choice, reply, mid, rest, answered, after, rfl⟩ := runs_call_iff.mp verified
  obtain ⟨rfl, stored⟩ := network_get answered
  rcases reply with e | _ | d
  · obtain ⟨rfl, ⟨e', rfl⟩, rfl⟩ := runs_fallito after
    exact .nonTrovato
  · obtain ⟨rfl, ⟨e', rfl⟩, rfl⟩ := runs_fallito after
    exact .nonTrovato
  obtain ⟨choice, reply, mid', rest', answered, removed, rfl⟩ := runs_call_iff.mp after
  rcases network_update answered with ⟨e, rfl, rfl⟩ | ⟨d', found, rfl, rfl⟩
  · obtain ⟨rfl, ⟨e', rfl⟩, rfl⟩ := runs_fallito removed
    exact .nonRimosso
  · cases (stored _ rfl).trans found
    exact runs_leggi found removed

end

def Uscito (u id : String) (s : Store) (d : Document) (calls : List (Exchange firestore Thrown))
    (final : Store) : Prop :=
  ⟨opAbbandona u id, .ok ()⟩ ∈ calls ∧ (final = s.put .progetti id (d.esce u) ∨
    (d.esce u).partecipanti = [] ∧ ⟨.delete .progetti id, .ok ()⟩ ∈ calls ∧
      final = (s.put .progetti id (d.esce u)).erase .progetti id)

theorem runs_abbandona {userId : Option String} {id : String}
    (run : Runs network (MembershipCall.abbandona userId id).process s calls out final) :
    final = s ∨ ∃ u d, userId = some u ∧ s.get .progetti id = some d ∧
    Uscito u id s d calls final := by
  cases userId with
  | none => exact .inl (runs_done_iff.mp run).2.2
  | some u =>
    obtain ⟨o, ran, -⟩ := runs_map_iff.mp run
    have removed : ∀ {d rest}, ⟨opAbbandona u id, .ok ()⟩ ∈ finoAllaRimozione u id d rest :=
      List.mem_cons_of_mem _ List.mem_cons_self
    cases runs_abbandonaProgetto ran with
    | nonTrovato | nonRimosso => exact .inl rfl
    | nonRiletto found | illeggibile found | rimasto found | nonEliminato found =>
      exact .inr ⟨u, _, rfl, found, removed, .inl rfl⟩
    | eliminato found read =>
      have none := partecipanti_of_partecipantiDi read
      exact .inr ⟨u, _, rfl, found, removed, .inr ⟨none, by simp, rfl⟩⟩

/-! ## Editing and adding -/

theorem runs_scrivi {vm : ProgettoViewModel} {id : String} {progetto : Progetto}
    (run : Runs network (scrivi vm id progetto) s calls out final) :
    final = s ∨ final = s.put .progetti id (RepositoryProgetto.aggiornaProgettoMap progetto) := by
  obtain ⟨choice, reply, mid, rest, answered, after, -⟩ := runs_call_iff.mp run
  rcases network_set answered with ⟨e, rfl, rfl⟩ | ⟨rfl, rfl⟩
  · exact .inl (runs_raise_iff.mp after).2.2
  · exact .inr (runs_quiet (reads_ricarica vm).quiet after)

theorem runs_aggiorna {vm : ProgettoViewModel} {id nome descrizione : String}
    {dataScadenza : DateTime}
    {priorita : Priorita} {completato : Bool} {voto : String} {dataConsegna : DateTime}
    (run : Runs network
      (ProjectCall.aggiorna vm id nome descrizione dataScadenza priorita completato voto
        dataConsegna).process s calls out final) :
    final = s ∨ ∃ d progetto, s.get .progetti id = some d ∧ Progetto.Decodes id d progetto ∧
      final = s.put .progetti id (RepositoryProgetto.aggiornaProgettoMap
        (modificato progetto nome descrizione dataScadenza priorita completato voto
          dataConsegna)) := by
  rw [aggiorna_process] at run
  obtain ⟨choice, reply, mid, rest, answered, loaded, -⟩ := runs_call_iff.mp run
  obtain ⟨rfl, stored⟩ := network_get answered
  rcases reply with e | _ | d
  · exact .inl (runs_done_iff.mp loaded).2.2
  · exact .inl (runs_done_iff.mp loaded).2.2
  -- a project that cannot be read is not written
  simp only at loaded
  split at loaded
  · next progetto read =>
    rcases runs_scrivi loaded with same | same
    · exact .inl same
    · exact .inr ⟨d, progetto, (stored _ rfl).symm, Progetto.fromFirestore_eq_ok.mp read, same⟩
  · exact .inl (runs_done_iff.mp loaded).2.2

/-- The ways in which a creation ends, each with its calls. -/
inductive Creazione (vm : ProgettoViewModel) (progettoId : String) (data : Document) (s : Store) :
    List (Exchange firestore Thrown) → ProgettoViewModel → Store → Prop where
  | nonAggiunto {errore : String} {e : Thrown} :
      Creazione vm progettoId data s [⟨.add .progetti data, .error e⟩]
        { vm with erroreAggiungiProgetto := some errore } s
  | interrotto {newId errore : String} {e : Thrown} (fresh : newId ∉ (s .progetti).used) :
      Creazione vm progettoId data s
        [⟨.add .progetti data, .ok newId⟩, ⟨.onSuccess progettoId, .error e⟩]
        { vm with erroreAggiungiProgetto := some errore } (s.put .progetti newId data)
  | aggiunto {newId : String} (fresh : newId ∉ (s .progetti).used) :
      Creazione vm progettoId data s
        [⟨.add .progetti data, .ok newId⟩, ⟨.onSuccess progettoId, .ok ()⟩] vm
        (s.put .progetti newId data)

section
variable {vm : ProgettoViewModel} {now : DateTime} {progettoId uuid nome descrizione : String}
    {dataScadenza : DateTime} {priorita : Priorita} {partecipanti : List String}
    {out : Except Thrown ProgettoViewModel}

theorem runs_crea
    (run : Runs network
      (vm.addProgetto now progettoId uuid nome descrizione dataScadenza priorita partecipanti) s
        calls out final) :
    ∃ after, out = .ok after ∧ Creazione vm progettoId (RepositoryProgetto.creaProgettoMap
      (ProgettoViewModel.nuovoProgetto now progettoId uuid nome descrizione dataScadenza priorita
        partecipanti)) s calls after final := by
  obtain ⟨choice, reply, mid, rest, answered, added, rfl⟩ := runs_call_iff.mp run
  rcases network_add answered with ⟨e, rfl, rfl⟩ | ⟨newId, fresh, rfl, rfl⟩
  · obtain ⟨rfl, rfl, rfl⟩ := runs_done_iff.mp added
    exact ⟨_, rfl, .nonAggiunto⟩
  obtain ⟨choice', reply', mid', rest', answered', told, rfl⟩ := runs_call_iff.mp added
  cases network_of_not_isWrite rfl answered'
  cases reply' with
  | error e =>
    obtain ⟨rfl, rfl, rfl⟩ := runs_done_iff.mp told
    exact ⟨_, rfl, .interrotto fresh⟩
  | ok _ =>
    obtain ⟨rfl, rfl, rfl⟩ := runs_done_iff.mp told
    exact ⟨_, rfl, .aggiunto fresh⟩

theorem runs_addProgetto
    (run : Runs network
      (vm.addProgetto now progettoId uuid nome descrizione dataScadenza priorita partecipanti) s
        calls out final) :
    final = s ∨ ∃ newId, newId ∉ (s .progetti).used ∧ final = s.put .progetti newId
      (RepositoryProgetto.creaProgettoMap
        (ProgettoViewModel.nuovoProgetto now progettoId uuid nome descrizione dataScadenza priorita
          partecipanti)) := by
  obtain ⟨after, -, created⟩ := runs_crea run
  cases created with
  | nonAggiunto => exact .inl rfl
  | interrotto fresh | aggiunto fresh => exact .inr ⟨_, fresh, rfl⟩

end

end TeamSync.Projects
