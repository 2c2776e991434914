import TeamSync.Cloud.Document
import TeamSync.Model.Priorita

/-! A task and its stored form. -/

set_option autoImplicit false

namespace TeamSync

structure LeMieAttivita where
  id : Option String
  titolo : String
  descrizione : String
  dataScadenza : DateTime
  dataCreazione : DateTime
  priorita : Priorita
  completato : Bool
  progetto : String
  utenti : List String
  fileUri : Option String
  deriving DecidableEq, Repr

namespace LeMieAttivita

/-- The constructor. A creation date that is not given is the current time. -/
def new (now : DateTime) (id : Option String) (titolo descrizione : String)
    (dataScadenza : DateTime)
    (priorita : Priorita) (completato : Bool) (progetto : String) (utenti : List String)
    (fileUri : Option String) (dataCreazione : Option DateTime) : LeMieAttivita where
  id := id
  titolo := titolo
  descrizione := descrizione
  dataScadenza := dataScadenza
  dataCreazione := dataCreazione.getD now
  priorita := priorita
  completato := completato
  progetto := progetto
  utenti := utenti
  fileUri := fileUri

def prioritaNamed (value : Option Value) : Priorita :=
  -- `Priorita.values.firstWhere((e) => e.name == value, orElse: NESSUNA)`
  (Priorita.values.find? fun p => value = some (.string p.name)).getD .nessuna

def fromFirestore (id : String) (doc : Option Document) : Except Thrown LeMieAttivita :=
  match doc with
  | none => .error .nullCheck
  | some data => do
    let titolo ← Value.asString "" (data "titolo")
    let descrizione ← Value.asString "" (data "descrizione")
    let dataScadenza ← Value.asTimestamp (data "dataScadenza")
    let dataCreazione ← Value.asTimestamp (data "dataCreazione")
    let completato ← Value.asBool false (data "completato")
    let progetto ← Value.asString "" (data "progetto")
    let utenti ← Value.asStrings (data "utenti")
    let fileUri ← Value.asStringOrNull (data "fileUri")
    pure {
      id := some id
      titolo := titolo
      descrizione := descrizione
      dataScadenza := dataScadenza.toDate
      dataCreazione := dataCreazione.toDate
      priorita := prioritaNamed (data "priorita")
      completato := completato
      progetto := progetto
      utenti := utenti
      fileUri := fileUri }

/-- `Priorita.values.firstWhere((e) => e.name == 'Priorita.$value', orElse: NESSUNA)`.
Only a string is looked at: the text begins with `Priorita.`, as no name does. -/
def prioritaPrefixed (value : Option Value) : Priorita :=
  (Priorita.values.find? fun p =>
    match value with
    | some (.string s) => p.name = "Priorita." ++ s
    | _ => false).getD .nessuna

def fromMap (map : Document) : Except Thrown LeMieAttivita := do
  let id ← Value.asString "" (map "id")
  let titolo ← Value.asString "" (map "titolo")
  let descrizione ← Value.asString "" (map "descrizione")
  let dataScadenza ← Value.asTimestamp (map "dataScadenza")
  let dataCreazione ← Value.asTimestamp (map "dataCreazione")
  let completato ← Value.asBool false (map "completato")
  let progetto ← Value.asString "" (map "progetto")
  let utenti ← Value.asStrings (map "utenti")
  let fileUri ← Value.asStringOrNull (map "fileUri")
  pure {
    id := some id
    titolo := titolo
    descrizione := descrizione
    dataScadenza := dataScadenza.toDate
    dataCreazione := dataCreazione.toDate
    priorita := prioritaPrefixed (map "priorita")
    completato := completato
    progetto := progetto
    utenti := utenti
    fileUri := fileUri }

def toMap (a : LeMieAttivita) : Document := .ofFields [
  ("titolo", .string a.titolo),
  ("descrizione", .string a.descrizione),
  ("dataScadenza", .timestamp (.fromDate a.dataScadenza)),
  ("dataCreazione", .timestamp (.fromDate a.dataCreazione)),
  ("priorita", .string a.priorita.toShortString),
  ("completato", .bool a.completato),
  ("progetto", .string a.progetto),
  ("utenti", .strings a.utenti),
  ("fileUri", a.fileUri.elim .null .string)]

/-- The document holds the task, field by field. -/
structure Decodes (id : String) (data : Document) (a : LeMieAttivita) : Prop where
  id : a.id = some id
  titolo : Value.asString "" (data "titolo") = .ok a.titolo
  descrizione : Value.asString "" (data "descrizione") = .ok a.descrizione
  dataScadenza : ∃ t, Value.asTimestamp (data "dataScadenza") = .ok t ∧ a.dataScadenza = t.toDate
  dataCreazione : ∃ t, Value.asTimestamp (data "dataCreazione") = .ok t ∧ a.dataCreazione = t.toDate
  priorita : a.priorita = prioritaNamed (data "priorita")
  completato : Value.asBool false (data "completato") = .ok a.completato
  progetto : Value.asString "" (data "progetto") = .ok a.progetto
  utenti : Value.asStrings (data "utenti") = .ok a.utenti
  fileUri : Value.asStringOrNull (data "fileUri") = .ok a.fileUri

theorem fromFirestore_eq_ok {id : String} {doc : Option Document} {a : LeMieAttivita} :
    fromFirestore id doc = .ok a ↔ ∃ data, doc = some data ∧ Decodes id data a := by
  cases doc with
  | none => simp [fromFirestore]
  | some data =>
    simp only [fromFirestore, bind_eq_ok, Option.some.injEq, exists_eq_left']
    constructor
    · rintro ⟨titolo, h₁, descrizione, h₂, scadenza, h₃, creazione, h₄, completato, h₅,
        progetto, h₆, utenti, h₇, fileUri, h₈, same⟩
      cases same
      exact ⟨rfl, h₁, h₂, ⟨_, h₃, rfl⟩, ⟨_, h₄, rfl⟩, rfl, h₅, h₆, h₇, h₈⟩
    · rintro ⟨id, titolo, descrizione, ⟨t, dataScadenza, scadenza⟩, ⟨u, dataCreazione, creazione⟩,
        priorita, completato, progetto, utenti, fileUri⟩
      cases a
      simp only at *
      subst id scadenza creazione priorita
      exact ⟨_, titolo, _, descrizione, _, dataScadenza, _, dataCreazione, _, completato, _,
        progetto, _, utenti, _, fileUri, rfl⟩

theorem Decodes.write_utenti {id : String} {data : Document} {a : LeMieAttivita}
    (decodes : Decodes id data a) (utenti : List String) :
    Decodes id (data.writes [("utenti", .value (.strings utenti))])
      { a with utenti := utenti } := by
  rw [Document.writes_one]
  exact ⟨decodes.id, decodes.titolo, decodes.descrizione, decodes.dataScadenza,
    decodes.dataCreazione, decodes.priorita, decodes.completato, decodes.progetto,
      Value.asStrings_strings utenti, decodes.fileUri⟩

theorem Decodes.write_completato {id : String} {data : Document} {a : LeMieAttivita}
    (decodes : Decodes id data a) (completato : Bool) :
    Decodes id (data.writes [("completato", .value (.bool completato))])
      { a with completato := completato } := by
  rw [Document.writes_one]
  exact ⟨decodes.id, decodes.titolo, decodes.descrizione, decodes.dataScadenza,
    decodes.dataCreazione, decodes.priorita, rfl, decodes.progetto, decodes.utenti, decodes.fileUri⟩

theorem prioritaPrefixed_eq (value : Option Value) : prioritaPrefixed value = .nessuna := by
  have never : ∀ (p : Priorita) (s : String), p.name ≠ "Priorita." ++ s := by
    intro p s same
    have short : p.name.length ≤ 7 := by cases p <;> decide
    have long : "Priorita.".length = 9 := by decide
    rw [same, String.length_append, long] at short
    omega
  unfold prioritaPrefixed
  split <;> simp [Priorita.values, never]

theorem fromMap_eq (map : Document) :
    fromMap map = (Value.asString "" (map "id") >>= fun id => fromFirestore id (some map) >>=
      fun a => pure { a with priorita := .nessuna }) := by
  simp only [fromMap, fromFirestore, bind_assoc, pure_bind, prioritaPrefixed_eq]

theorem prioritaNamed_name (p : Priorita) : prioritaNamed (some (.string p.name)) = p := by
  cases p <;> decide

/-- What is read back from a stored task: its dates are local, its identifier is the document's. -/
def riletta (id : String) (a : LeMieAttivita) : LeMieAttivita :=
  { a with
    id := some id
    dataScadenza := (Timestamp.fromDate a.dataScadenza).toDate
    dataCreazione := (Timestamp.fromDate a.dataCreazione).toDate }

/-- The same task: every field is equal, a date as an instant. -/
def Stessa (a b : LeMieAttivita) : Prop :=
  a.dataScadenza.micros = b.dataScadenza.micros ∧
    a.dataCreazione.micros = b.dataCreazione.micros ∧
    a = { b with dataScadenza := a.dataScadenza, dataCreazione := a.dataCreazione }

theorem stessa_riletta (id : String) (a : LeMieAttivita) :
    (a.riletta id).Stessa { a with id := some id } := ⟨rfl, rfl, rfl⟩

theorem decodes_toMap (id : String) (a : LeMieAttivita) : Decodes id a.toMap (a.riletta id) := by
  refine ⟨rfl, rfl, rfl, ⟨_, rfl, rfl⟩, ⟨_, rfl, rfl⟩, ?_, rfl, rfl,
    Value.asStrings_strings a.utenti, ?_⟩
  · change a.priorita = prioritaNamed (some (.string a.priorita.toShortString))
    rw [Priorita.toShortString_eq_name, prioritaNamed_name]
  · change Value.asStringOrNull (some (a.fileUri.elim .null .string)) = .ok a.fileUri
    cases a.fileUri <;> rfl

theorem Decodes.unique {id : String} {data : Document} {a b : LeMieAttivita}
    (first : Decodes id data a) (second : Decodes id data b) : a = b := by
  have read := fromFirestore_eq_ok.mpr ⟨data, rfl, first⟩
  rw [fromFirestore_eq_ok.mpr ⟨data, rfl, second⟩] at read
  exact (Except.ok.inj read).symm

end LeMieAttivita

end TeamSync
