import TeamSync.Library.Fields
import TeamSync.Model.LeMieAttivita

/-! The stored form of a task: one encoder, two decoders. -/

set_option autoImplicit false

namespace TeamSync.LeMieAttivita

def campi : List String :=
  ["titolo", "descrizione", "dataScadenza", "dataCreazione", "priorita", "completato", "progetto",
    "utenti", "fileUri"]

/-- The document holds every field of the task as a save writes it. -/
structure Scritta (data : Document) (a : LeMieAttivita) : Prop where
  titolo : data "titolo" = some (.string a.titolo)
  descrizione : data "descrizione" = some (.string a.descrizione)
  dataScadenza : data "dataScadenza" = some (.timestamp (.fromDate a.dataScadenza))
  dataCreazione : data "dataCreazione" = some (.timestamp (.fromDate a.dataCreazione))
  priorita : data "priorita" = some (.string a.priorita.name)
  completato : data "completato" = some (.bool a.completato)
  progetto : data "progetto" = some (.string a.progetto)
  utenti : data "utenti" = some (.strings a.utenti)
  fileUri : data "fileUri" = some (a.fileUri.elim .null .string)

/-- Every field of a task is there, with a value of its type. -/
structure BenTipata (data : Document) : Prop where
  titolo : ∃ s, data "titolo" = some (.string s)
  descrizione : ∃ s, data "descrizione" = some (.string s)
  dataScadenza : ∃ t, data "dataScadenza" = some (.timestamp t)
  dataCreazione : ∃ t, data "dataCreazione" = some (.timestamp t)
  priorita : ∃ p : Priorita, data "priorita" = some (.string p.name)
  completato : ∃ b, data "completato" = some (.bool b)
  progetto : ∃ s, data "progetto" = some (.string s)
  utenti : ∃ xs, data "utenti" = some (.strings xs)
  fileUri : data "fileUri" = some .null ∨ ∃ s, data "fileUri" = some (.string s)

section
variable {id : String} {data : Document} {a : LeMieAttivita}

def voci (a : LeMieAttivita) : List (String × Value) := [
  ("titolo", .string a.titolo),
  ("descrizione", .string a.descrizione),
  ("dataScadenza", .timestamp (.fromDate a.dataScadenza)),
  ("dataCreazione", .timestamp (.fromDate a.dataCreazione)),
  ("priorita", .string a.priorita.toShortString),
  ("completato", .bool a.completato),
  ("progetto", .string a.progetto),
  ("utenti", .strings a.utenti),
  ("fileUri", a.fileUri.elim .null .string)]

theorem nodup_voci (a : LeMieAttivita) : (a.voci.map Prod.fst).Nodup := show campi.Nodup by decide

theorem forall_voci_iff : (∀ entry ∈ a.voci, data entry.1 = some entry.2) ↔ Scritta data a := by
  simp only [voci, List.forall_mem_cons, Priorita.toShortString_eq_name]
  constructor
  · rintro ⟨titolo, descrizione, dataScadenza, dataCreazione, priorita, completato, progetto,
      utenti, fileUri, -⟩
    exact ⟨titolo, descrizione, dataScadenza, dataCreazione, priorita, completato, progetto, utenti,
      fileUri⟩
  · rintro ⟨titolo, descrizione, dataScadenza, dataCreazione, priorita, completato, progetto,
      utenti, fileUri⟩
    exact ⟨titolo, descrizione, dataScadenza, dataCreazione, priorita, completato, progetto, utenti,
      fileUri, fun _ none => by cases none⟩

theorem toMap_eq_iff : a.toMap = data ↔ Scritta data a ∧ ∀ name ∉ campi, data name = none := by
  rw [← forall_voci_iff]
  exact Fields.lookup_eq_iff a.nodup_voci

theorem scritta_toMap (a : LeMieAttivita) :
    Scritta a.toMap a ∧ ∀ name ∉ campi, a.toMap name = none := toMap_eq_iff.mp rfl

theorem toMap_agrees_iff : (∀ name ∈ campi, a.toMap name = data name) ↔ Scritta data a := by
  rw [← forall_voci_iff]
  exact Fields.lookup_agrees_iff a.nodup_voci

theorem Scritta.decodes (scritta : Scritta data a) : Decodes id data (a.riletta id) where
  id := rfl
  titolo := by rw [scritta.titolo]; rfl
  descrizione := by rw [scritta.descrizione]; rfl
  dataScadenza := ⟨_, by rw [scritta.dataScadenza]; rfl, rfl⟩
  dataCreazione := ⟨_, by rw [scritta.dataCreazione]; rfl, rfl⟩
  priorita := by rw [scritta.priorita, prioritaNamed_name]; rfl
  completato := by rw [scritta.completato]; rfl
  progetto := by rw [scritta.progetto]; rfl
  utenti := by rw [scritta.utenti, Value.asStrings_strings]; rfl
  fileUri := by
    rw [scritta.fileUri]
    change Value.asStringOrNull (some (a.fileUri.elim .null .string)) = .ok a.fileUri
    cases a.fileUri <;> rfl

theorem Scritta.riletta (scritta : Scritta data a) : Scritta data (a.riletta id) :=
  ⟨scritta.titolo, scritta.descrizione, scritta.dataScadenza, scritta.dataCreazione,
    scritta.priorita, scritta.completato, scritta.progetto, scritta.utenti, scritta.fileUri⟩

theorem BenTipata.scritta (typed : BenTipata data) : ∃ a, Scritta data a := by
  obtain ⟨⟨titolo, h₁⟩, ⟨descrizione, h₂⟩, ⟨⟨scadenza⟩, h₃⟩, ⟨⟨creazione⟩, h₄⟩, ⟨priorita, h₅⟩,
    ⟨completato, h₆⟩, ⟨progetto, h₇⟩, ⟨utenti, h₈⟩, h₉⟩ := typed
  have file : ∃ fileUri : Option String, data "fileUri" = some (fileUri.elim .null .string) := by
    rcases h₉ with absent | ⟨uri, present⟩
    · exact ⟨none, absent⟩
    · exact ⟨some uri, present⟩
  obtain ⟨fileUri, h₉⟩ := file
  exact ⟨⟨none, titolo, descrizione, ⟨scadenza, false⟩, ⟨creazione, false⟩, priorita, completato,
    progetto, utenti, fileUri⟩, h₁, h₂, h₃, h₄, h₅, h₆, h₇, h₈, h₉⟩

end

/-- A saved task is read back, and a document with every field of a task is saved
again with the same fields. -/
theorem task_document_round_trip :
    (∀ id (a : LeMieAttivita), ∃ b, fromFirestore id (some a.toMap) = .ok b ∧
      b.Stessa { a with id := some id }) ∧
    ∀ id data, BenTipata data → ∃ a, fromFirestore id (some data) = .ok a ∧
      (∀ name ∈ campi, a.toMap name = data name) ∧
      ((∀ name ∉ campi, data name = none) → a.toMap = data) := by
  constructor
  · intro id a
    exact ⟨a.riletta id, fromFirestore_eq_ok.mpr ⟨_, rfl, decodes_toMap id a⟩, a.stessa_riletta id⟩
  · intro id data typed
    obtain ⟨a, scritta⟩ := typed.scritta
    exact ⟨a.riletta id, fromFirestore_eq_ok.mpr ⟨data, rfl, scritta.decodes⟩,
      toMap_agrees_iff.mpr scritta.riletta,
      fun others => toMap_eq_iff.mpr ⟨scritta.riletta, others⟩⟩

/-! ## The decoder of a map -/

theorem prioritaNamed_eq_nessuna_iff {value : Option Value} :
    prioritaNamed value = .nessuna ↔
      ∀ p : Priorita, p ≠ .nessuna → value ≠ some (.string p.name) := by
  constructor
  · rintro none p differ rfl
    rw [prioritaNamed_name] at none
    exact differ none
  · intro unnamed
    unfold prioritaNamed
    cases found : Priorita.values.find? fun p => value = some (.string p.name) with
    | none => rfl
    | some p =>
      have named := List.find?_some found
      by_contra differ
      exact unnamed p differ (of_decide_eq_true named)

theorem fromMap_of_fromFirestore {id : String} {data : Document} {a : LeMieAttivita}
    (read : fromFirestore id (some data) = .ok a) :
    fromMap (Function.update data "id" (some (.string id))) =
      .ok { a with priorita := .nessuna } := by
  -- no other field is read under the name of the identifier
  have same :
      fromFirestore id (some (Function.update data "id" (some (.string id)))) = .ok a := read
  rw [fromMap_eq, Function.update_self]
  simp only [Value.asString, bind_eq_ok]
  exact ⟨id, rfl, a, same, rfl⟩

theorem fromMap_toMap (a : LeMieAttivita) :
    fromMap a.toMap = .ok { a.riletta "" with priorita := .nessuna } := by
  rw [fromMap_eq, bind_eq_ok]
  refine ⟨"", rfl, bind_eq_ok.mpr ⟨a.riletta "", ?_, rfl⟩⟩
  exact fromFirestore_eq_ok.mpr ⟨_, rfl, decodes_toMap "" a⟩

/-- The two decoders give the same task just when the document names no priority;
and the decoder of a map undoes `toMap` just for the tasks without one. -/
theorem fromMap_agrees_iff {id : String} {data : Document} {a : LeMieAttivita}
    (read : fromFirestore id (some data) = .ok a) :
    (fromMap (Function.update data "id" (some (.string id))) = .ok a ↔
      ∀ p : Priorita, p ≠ .nessuna → data "priorita" ≠ some (.string p.name)) ∧
    ∀ b : LeMieAttivita, (∃ c, fromMap b.toMap = .ok c ∧ c.Stessa { b with id := c.id }) ↔
      b.priorita = .nessuna := by
  constructor
  · obtain ⟨_, same, decodes⟩ := fromFirestore_eq_ok.mp read
    cases same
    rw [fromMap_of_fromFirestore read, ← prioritaNamed_eq_nessuna_iff, ← decodes.priorita]
    constructor
    · intro same
      rw [← Except.ok.inj same]
    · intro none
      rw [← none]
  · intro b
    rw [fromMap_toMap]
    constructor
    · rintro ⟨_, ⟨⟩, -, -, same⟩
      exact (congrArg LeMieAttivita.priorita same).symm
    · intro none
      exact ⟨_, rfl, rfl, rfl, by rw [← none]; rfl⟩

def urgente : LeMieAttivita :=
  ⟨some "t", "Capitolo", "Prima stesura", ⟨microsPerDay, false⟩, ⟨0, false⟩, .alta, false, "p",
    ["anna"], none⟩

def senzaPriorita : LeMieAttivita := { urgente with priorita := .nessuna }

theorem fromMap_agrees_iff_senzaPriorita :
    fromFirestore "t" (some senzaPriorita.toMap) = .ok senzaPriorita ∧
    fromMap (Function.update senzaPriorita.toMap "id" (some (.string "t"))) =
      .ok senzaPriorita := by
  have read : fromFirestore "t" (some senzaPriorita.toMap) = .ok senzaPriorita := rfl
  refine ⟨read, (fromMap_agrees_iff read).1.mpr ?_⟩
  rw [← prioritaNamed_eq_nessuna_iff]
  rfl

/-- A high priority is lost by the decoder of a map. -/
theorem fromMap_loses_priority :
    fromFirestore "t" (some urgente.toMap) = .ok urgente ∧
    fromMap (Function.update urgente.toMap "id" (some (.string "t"))) =
      .ok { urgente with priorita := .nessuna } ∧
    fromMap (Function.update urgente.toMap "id" (some (.string "t"))) ≠ .ok urgente := by
  refine ⟨rfl, rfl, fun same => ?_⟩
  cases congrArg (Except.map LeMieAttivita.priorita) same

end TeamSync.LeMieAttivita
