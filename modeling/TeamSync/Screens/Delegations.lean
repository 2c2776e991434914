import TeamSync.Screens.TaskIdentity
import TeamSync.Session.Consistency
import TeamSync.Team.Entry

/-! How a user comes to be assigned to a task: by hand of one who has been shown its buttons. -/

set_option autoImplicit false

namespace TeamSync.Screens.Visits

open Effects Projects Tasks Team ProgettoViewModel

/-- A client visits the pages of the tasks, saves the dialog that adds a task to a project, or
does what writes no task. -/
inductive Socio where
  | visita (utente : String) (passi : List Passo)
  | aggiungi (zone : Zone) (oggi now : DateTime) (utente idProgetto : String)
      (nuovaAttivita : LeMieAttivita)
  | altro (p : App Unit) (senzaTask : SenzaTask p)

def Socio.process : Socio → App Unit
  | .visita utente passi => Visits.visita utente passi
  | .aggiungi zone oggi now utente idProgetto nuovaAttivita => discard
      (LeMieAttivitaUI.handleAggiungiTask zone oggi now (some utente) idProgetto nuovaAttivita)
  | .altro p _ => p

/-- The buttons of the task have been shown to the visitor, and the user has been read among
the participants of its project. -/
structure Incarica (socio : Socio) (seen : Scambi) (id user utente : String) (passi : List Passo)
    (a : LeMieAttivita) : Prop where
  visita : socio = .visita utente passi
  concessa : Concessa passi utente seen id a
  partecipa : ∃ d, ⟨.get .progetti a.progetto, .ok (some d)⟩ ∈ seen ∧ d.partecipa user

theorem Incarica.mono {socio : Socio} {seen later : Scambi} {id user utente : String}
    {passi : List Passo} {a : LeMieAttivita} (may : Incarica socio seen id user utente passi a)
    (includes : seen ⊆ later) : Incarica socio later id user utente passi a := by
  obtain ⟨d, read, member⟩ := may.partecipa
  exact ⟨may.visita, may.concessa.mono includes, d, includes read, member⟩

section
variable {A : Type} {socio : Socio} {seen later : Scambi} {id utente : String}
  {passi : List Passo} {item : LeMieAttivita} {v : Vista}

end

/-! ## Runs -/

section
variable {ι : Type} [DecidableEq ι] {soci : ι → Socio} {s : Store}
  {guard : Config ι firestore Thrown Store Unit → ι → Prop}
  {c mid final : Config ι firestore Thrown Store Unit} {id user : String}

/-- What has assigned the user to the task. -/
inductive Assegnazione (guard : Config ι firestore Thrown Store Unit → ι → Prop) (soci : ι → Socio)
    (s : Store) (c : Config ι firestore Thrown Store Unit) (id user : String) : Prop where
  | iniziale (assigned : s.assegnato id user)
  | creata (i : ι) (zone : Zone) (oggi now : DateTime) (idProgetto : String)
      (nuovaAttivita : LeMieAttivita) (data : Document)
      (page : soci i = .aggiungi zone oggi now user idProgetto nuovaAttivita)
      (added : (i, ⟨.add .todo data, .ok id⟩) ∈ c.trace)
  -- a visitor has handed it on to a participant of its project
  | delegata (i : ι) (utente : String) (passi : List Passo) (idProgetto : String)
      (utenti : List String) (page : soci i = .visita utente passi)
      (stored : SomeMoment network guard (.start s fun i => (soci i).process) c fun store =>
        ∃ d, store.get .todo id = some d ∧ d "progetto" = some (.string idProgetto) ∧
          (SenzaRiuso passi → .string utente ∈ d.assegnatari))
      (assigned : ∃ key, SomeMoment network guard (.start s fun i => (soci i).process) c
        fun store => store.assegnato key utente)
      (member : SomeMoment network guard (.start s fun i => (soci i).process) c
        fun store => store.partecipa idProgetto user)
      (written : (i, ⟨.update .todo id [("utenti", .value (.strings utenti))], .ok ()⟩) ∈ c.trace)
      (among : user ∈ utenti)

theorem Assegnazione.later (reason : Assegnazione guard soci s mid id user)
    (rest : Reaches network guard mid final) : Assegnazione guard soci s final id user := by
  cases reason with
  | iniziale assigned => exact .iniziale assigned
  | creata i zone oggi now idProgetto nuovaAttivita data page added =>
    exact .creata i zone oggi now idProgetto nuovaAttivita data page (rest.trace_subset added)
  | delegata i utente passi idProgetto utenti page stored assigned member written among =>
    exact .delegata i utente passi idProgetto utenti page (stored.later rest)
      (assigned.imp fun _ once => once.later rest) (member.later rest) (rest.trace_subset written)
      among

theorem mem_assegnatari {d : Document} {a : LeMieAttivita} {utente : String}
    (decodes : LeMieAttivita.Decodes id d a) (assegnato : utente ∈ a.utenti) :
    .string utente ∈ d.assegnatari := by
  rw [decodes.assegnatari]
  exact List.mem_map_of_mem assegnato

theorem Incarica.delegata (reach : Reaches network guard (.start s fun i => (soci i).process) c)
    {i : ι} {utente : String} {passi : List Passo} {a : LeMieAttivita} {utenti : List String}
    (may : Incarica (soci i) (c.own i) id user utente passi a)
    (step : Reaches network guard c final)
    (written : (i, ⟨.update .todo id [("utenti", .value (.strings utenti))], .ok ()⟩) ∈ final.trace)
    (among : user ∈ utenti) : Assegnazione guard soci s final id user := by
  obtain ⟨idProgetto, _, -, listed⟩ := may.concessa.listata
  obtain ⟨mid, before, after, d, stored, progetto, decodes⟩ := listed.moment reach
  obtain ⟨key, b, ⟨_, _, -, other⟩, assegnato⟩ := may.concessa.assegnata
  obtain ⟨mid', before', after', d', stored', -, decodes'⟩ := other.moment reach
  obtain ⟨d'', read, member⟩ := may.partecipa
  -- the query has asked for the tasks of this project only
  have same : a.progetto = idProgetto := by
    have decoded := decodes.progetto
    rw [progetto] at decoded
    cases decoded
    rfl
  rw [same] at read
  have known : Conosciuto c .progetti idProgetto d'' := .letto i (Config.mem_own.mp read)
  obtain ⟨mid'', before'', after'', stored''⟩ := known.moment reach
  exact .delegata i utente passi idProgetto utenti may.visita
    ⟨mid, before, after.trans step, d, stored, progetto, fun fresh =>
      mem_assegnatari decodes (may.concessa.propria fresh)⟩
    ⟨key, mid', before', after'.trans step, d', stored', mem_assegnatari decodes' assegnato⟩
    ⟨mid'', before'', after''.trans step, d'', stored'', member⟩ written among

end

def conBruno : Store := paginaDiAnna.put .utenti "bruno" Session.profiloDiAnna

end TeamSync.Screens.Visits
