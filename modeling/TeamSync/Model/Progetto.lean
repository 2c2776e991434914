import TeamSync.Cloud.Document
import TeamSync.Model.Priorita

/-! A project and its stored form. -/

set_option autoImplicit false

namespace TeamSync

structure Progetto where
  id : Option String
  nome : String
  descrizione : Option String
  dataCreazione : DateTime
  dataScadenza : DateTime
  dataConsegna : DateTime
  priorita : Priorita
  partecipanti : List String
  voto : String
  completato : Bool
  codice : String
  deriving DecidableEq, Repr

namespace Progetto

/-- `Priorita.values.firstWhere((e) => e.toString() == 'Priorita.$value', orElse: NESSUNA)`.
No value but a string prints as the bare name of a priority. -/
def prioritaPrinted (value : Option Value) : Priorita :=
  (Priorita.values.find? fun p =>
    match value with
    | some (.string s) => p.toString = "Priorita." ++ s
    | _ => false).getD .nessuna

def fromFirestore (id : String) (data : Document) : Except Thrown Progetto := do
  let nome ← Value.asString "" (data "nome")
  let descrizione ← Value.asStringOrNull (data "descrizione")
  let dataCreazione ← Value.asTimestamp (data "dataCreazione")
  let dataScadenza ← Value.asTimestamp (data "dataScadenza")
  let dataConsegna ← Value.asTimestamp (data "dataConsegna")
  let partecipanti ← Value.asStrings (data "partecipanti")
  let voto ← Value.asString "Non Valutato" (data "voto")
  let completato ← Value.asBool false (data "completato")
  let codice ← Value.asString "" (data "codice")
  pure {
    id := some id
    nome := nome
    descrizione := descrizione
    dataCreazione := dataCreazione.toDate
    dataScadenza := dataScadenza.toDate
    dataConsegna := dataConsegna.toDate
    priorita := prioritaPrinted (data "priorita")
    partecipanti := partecipanti
    voto := voto
    completato := completato
    codice := codice }

def copyWith (p : Progetto) (id nome descrizione : Option String)
    (dataCreazione dataScadenza dataConsegna : Option DateTime) (priorita : Option Priorita)
    (partecipanti : Option (List String)) (voto : Option String) (completato : Option Bool)
    (codice : Option String) : Progetto where
  id := id.orElse fun _ => p.id
  nome := nome.getD p.nome
  descrizione := descrizione.orElse fun _ => p.descrizione
  dataCreazione := dataCreazione.getD p.dataCreazione
  dataScadenza := dataScadenza.getD p.dataScadenza
  dataConsegna := dataConsegna.getD p.dataConsegna
  priorita := priorita.getD p.priorita
  partecipanti := partecipanti.getD p.partecipanti
  voto := voto.getD p.voto
  completato := completato.getD p.completato
  codice := codice.getD p.codice

/-- The document holds the project, field by field. -/
structure Decodes (id : String) (data : Document) (p : Progetto) : Prop where
  id : p.id = some id
  nome : Value.asString "" (data "nome") = .ok p.nome
  descrizione : Value.asStringOrNull (data "descrizione") = .ok p.descrizione
  dataCreazione : ∃ t, Value.asTimestamp (data "dataCreazione") = .ok t ∧ p.dataCreazione = t.toDate
  dataScadenza : ∃ t, Value.asTimestamp (data "dataScadenza") = .ok t ∧ p.dataScadenza = t.toDate
  dataConsegna : ∃ t, Value.asTimestamp (data "dataConsegna") = .ok t ∧ p.dataConsegna = t.toDate
  priorita : p.priorita = prioritaPrinted (data "priorita")
  partecipanti : Value.asStrings (data "partecipanti") = .ok p.partecipanti
  voto : Value.asString "Non Valutato" (data "voto") = .ok p.voto
  completato : Value.asBool false (data "completato") = .ok p.completato
  codice : Value.asString "" (data "codice") = .ok p.codice

theorem fromFirestore_eq_ok {id : String} {data : Document} {p : Progetto} :
    fromFirestore id data = .ok p ↔ Decodes id data p := by
  simp only [fromFirestore, bind_eq_ok]
  constructor
  · rintro ⟨nome, h₁, descrizione, h₂, creazione, h₃, scadenza, h₄, consegna, h₅, partecipanti, h₆,
      voto, h₇, completato, h₈, codice, h₉, same⟩
    cases same
    exact ⟨rfl, h₁, h₂, ⟨_, h₃, rfl⟩, ⟨_, h₄, rfl⟩, ⟨_, h₅, rfl⟩, rfl, h₆, h₇, h₈, h₉⟩
  · rintro ⟨id, nome, descrizione, ⟨t, dataCreazione, creazione⟩, ⟨u, dataScadenza, scadenza⟩,
      ⟨v, dataConsegna, consegna⟩, priorita, partecipanti, voto, completato, codice⟩
    cases p
    simp only at *
    subst id creazione scadenza consegna priorita
    exact ⟨_, nome, _, descrizione, _, dataCreazione, _, dataScadenza, _, dataConsegna, _,
      partecipanti, _, voto, _, completato, _, codice, rfl⟩

theorem prioritaPrinted_name (p : Priorita) : prioritaPrinted (some (.string p.name)) = p := by
  cases p <;> decide

def riletto (id : String) (p : Progetto) : Progetto :=
  { p with
    id := some id
    dataCreazione := (Timestamp.fromDate p.dataCreazione).toDate
    dataScadenza := (Timestamp.fromDate p.dataScadenza).toDate
    dataConsegna := (Timestamp.fromDate p.dataConsegna).toDate }

def Stesso (p q : Progetto) : Prop :=
  p.dataCreazione.micros = q.dataCreazione.micros ∧
    p.dataScadenza.micros = q.dataScadenza.micros ∧
    p.dataConsegna.micros = q.dataConsegna.micros ∧
    p = { q with
      dataCreazione := p.dataCreazione
      dataScadenza := p.dataScadenza
      dataConsegna := p.dataConsegna }

theorem stesso_riletto (id : String) (p : Progetto) :
    (p.riletto id).Stesso { p with id := some id } := ⟨rfl, rfl, rfl, rfl⟩

theorem Decodes.unique {id : String} {data : Document} {p q : Progetto} (first : Decodes id data p)
    (second : Decodes id data q) : p = q := by
  have read := fromFirestore_eq_ok.mpr first
  rw [fromFirestore_eq_ok.mpr second] at read
  exact (Except.ok.inj read).symm

end Progetto

end TeamSync
