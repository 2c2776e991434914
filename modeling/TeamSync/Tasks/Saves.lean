import TeamSync.Tasks.Format
import TeamSync.Tasks.Runs
import TeamSync.View.LeMieAttivitaUI

/-! What the saves of a task keep of the stored document. -/

set_option autoImplicit false

namespace TeamSync.Tasks

open Effects
open LeMieAttivita (Decodes campi)

/-- Of all stored documents only the task has changed, in these fields. -/
def SoloCampi (s final : Store) (id : String) (fields : List (String × FieldWrite)) : Prop :=
  ∃ d, s.get .todo id = some d ∧
    ∀ c key, final.get c key = if c = .todo ∧ key = id then some (d.writes fields) else s.get c key

section
variable {s final : Store} {id : String} {d m : Document} {fields : List (String × FieldWrite)}

theorem soloCampi_put_iff (stored : s.get .todo id = some d) :
    SoloCampi s (s.put .todo id m) id fields ↔ m = d.writes fields := by
  constructor
  · rintro ⟨d', found, only⟩
    cases stored.symm.trans found
    have here := only .todo id
    rw [Store.get_put_self, if_pos ⟨rfl, rfl⟩] at here
    exact Option.some.inj here
  · rintro rfl
    exact ⟨d, stored, fun c key => Store.get_put _ _ _ _ _ _⟩

theorem putTodo_same_iff (stored : s.get .todo id = some d) :
    (∀ c key, (s.put .todo id m).get c key = s.get c key) ↔ m = d := by
  constructor
  · intro same
    have here := same .todo id
    rw [Store.get_put_self, stored] at here
    exact Option.some.inj here
  · rintro rfl
    exact Store.get_put_same stored

theorem priorita_iff {a : LeMieAttivita} (decodes : Decodes id d a) :
    d "priorita" = some (.string a.priorita.name) ↔
      ∃ p : Priorita, d "priorita" = some (.string p.name) := by
  constructor
  · exact fun named => ⟨_, named⟩
  · rintro ⟨p, named⟩
    rw [decodes.priorita, named, LeMieAttivita.prioritaNamed_name]

theorem dataScadenza_eq {a : LeMieAttivita} (decodes : Decodes id d a) :
    d "dataScadenza" = some (.timestamp (.fromDate a.dataScadenza)) := by
  obtain ⟨⟨micros⟩, read, same⟩ := decodes.dataScadenza
  rw [same, Value.eq_timestamp read]
  rfl

theorem altri_writes_iff (named : ∀ field ∈ fields, field.1 ∈ campi) :
    (∀ name ∉ campi, d.writes fields name = none) ↔ ∀ name ∉ campi, d name = none := by
  refine forall₂_congr fun name other => ?_
  have absent : name ∉ fields.map Prod.fst := fun member => by
    obtain ⟨field, listed, rfl⟩ := List.mem_map.mp member
    exact other (named field listed)
  rw [Document.writes_of_notMem absent]

end

/-! ## The dialog -/

def campiDelDialog (dialog : EditTodoDialog) : List (String × FieldWrite) := [
  ("titolo", .value (.string dialog.titolo)),
  ("descrizione", .value (.string dialog.descrizione)),
  ("dataScadenza", .value (.timestamp (.fromDate dialog.dataScadenza))),
  ("priorita", .value (.string dialog.priorita.name))]

/-- What the dialog does not show is stored as its save writes it: created now,
with no file, and with the other fields there. -/
structure ComeSalvata (now : DateTime) (d : Document) : Prop where
  dataCreazione : d "dataCreazione" = some (.timestamp (.fromDate now))
  fileUri : d "fileUri" = some .null
  completato : Value.Presente (d "completato")
  progetto : Value.Presente (d "progetto")
  utenti : Value.Presente (d "utenti")
  altri : ∀ name ∉ campi, d name = none

section
variable {now now' : DateTime} {dialog : EditTodoDialog} {s final : Store} {id : String}
    {d : Document}

def salvata (now : DateTime) (id : String) (dialog : EditTodoDialog) : LeMieAttivita :=
  .new now (some id) dialog.titolo dialog.descrizione dialog.dataScadenza dialog.priorita
    dialog.todoItem.completato dialog.todoItem.progetto dialog.todoItem.utenti none (some now)

theorem salvata_toMap_iff (decodes : Decodes id d dialog.todoItem) :
    (salvata now id dialog).toMap = d.writes (campiDelDialog dialog) ↔ ComeSalvata now d := by
  rw [LeMieAttivita.toMap_eq_iff, altri_writes_iff (by simp [campiDelDialog, campi])]
  constructor
  · rintro ⟨scritta, altri⟩
    exact ⟨scritta.dataCreazione, scritta.fileUri,
      (Value.eq_bool_iff decodes.completato).mp scritta.completato,
      (Value.eq_string_iff decodes.progetto).mp scritta.progetto,
      (Value.eq_strings_iff decodes.utenti).mp scritta.utenti, altri⟩
  · rintro ⟨dataCreazione, fileUri, completato, progetto, utenti, altri⟩
    exact ⟨⟨rfl, rfl, rfl, dataCreazione, rfl,
      (Value.eq_bool_iff decodes.completato).mpr completato,
      (Value.eq_string_iff decodes.progetto).mpr progetto,
      (Value.eq_strings_iff decodes.utenti).mpr utenti, fileUri⟩, altri⟩

theorem salvata_toMap_same_iff (decodes : Decodes id d dialog.todoItem)
    {dataScadenzaProgetto oggi : DateTime}
    (unchanged : dialog = .apri dialog.todoItem dataScadenzaProgetto oggi) :
    (salvata now id dialog).toMap = d ↔ ComeSalvata now d ∧ Value.Presente (d "titolo") ∧
      Value.Presente (d "descrizione") ∧ ∃ p : Priorita, d "priorita" = some (.string p.name) := by
  rw [← salvata_toMap_iff decodes, ← Value.eq_string_iff decodes.titolo,
    ← Value.eq_string_iff decodes.descrizione, ← priorita_iff decodes, LeMieAttivita.toMap_eq_iff,
    LeMieAttivita.toMap_eq_iff, altri_writes_iff (by simp [campiDelDialog, campi])]
  constructor
  · rintro ⟨scritta, altri⟩
    rw [unchanged] at scritta
    exact ⟨⟨⟨rfl, rfl, rfl, scritta.dataCreazione, rfl, scritta.completato, scritta.progetto,
      scritta.utenti, scritta.fileUri⟩, altri⟩, scritta.titolo, scritta.descrizione,
      scritta.priorita⟩
  · rintro ⟨⟨scritta, altri⟩, titolo, descrizione, priorita⟩
    have dataScadenza := dataScadenza_eq decodes
    rw [unchanged]
    exact ⟨⟨titolo, descrizione, dataScadenza, scritta.dataCreazione, priorita, scritta.completato,
      scritta.progetto, scritta.utenti, scritta.fileUri⟩, altri⟩

theorem runs_salva {zone : Zone} {oggi : DateTime} {calls : List (Exchange firestore Thrown)}
    (named : dialog.todoItem.id = some id)
    (run : Runs network (LeMieAttivitaUI.handleModificaTask zone oggi now' (dialog.onSave now)) s
      calls (.ok none) final) : final = s.put .todo id (salvata now id dialog).toMap := by
  have target : (dialog.onSave now).id = some id := named
  unfold LeMieAttivitaUI.handleModificaTask at run
  rw [target] at run
  rcases runs_viewModel_updateTodo run with ⟨-, failed⟩ | ⟨-, same⟩
  · exact absurd rfl failed
  · exact same

end

/-- A save of the dialog changes the fields that the dialog shows and nothing else
just when the rest is stored as the save writes it; a save without changes keeps
everything just when, besides, the fields it shows are stored. -/
theorem edit_keeps_rest_iff {zone : Zone} {oggi now now' : DateTime} {dialog : EditTodoDialog}
    {s final : Store} {calls : List (Exchange firestore Thrown)} {id : String} {d : Document}
    (stored : s.get .todo id = some d) (decodes : Decodes id d dialog.todoItem)
    (run : Runs network (LeMieAttivitaUI.handleModificaTask zone oggi now' (dialog.onSave now)) s
      calls (.ok none) final) :
    (SoloCampi s final id (campiDelDialog dialog) ↔ ComeSalvata now d) ∧
    ∀ dataScadenzaProgetto adesso, dialog = .apri dialog.todoItem dataScadenzaProgetto adesso →
      ((∀ c key, final.get c key = s.get c key) ↔ ComeSalvata now d ∧
        Value.Presente (d "titolo") ∧ Value.Presente (d "descrizione") ∧
          ∃ p : Priorita, d "priorita" = some (.string p.name)) := by
  rw [runs_salva decodes.id run]
  refine ⟨?_, fun dataScadenzaProgetto adesso unchanged => ?_⟩
  · rw [soloCampi_put_iff stored, salvata_toMap_iff decodes]
  · rw [putTodo_same_iff stored, salvata_toMap_same_iff decodes unchanged]

def dialogDiAnna (a : LeMieAttivita) : EditTodoDialog :=
  .apri a ⟨2 * microsPerDay, false⟩ ⟨0, false⟩

theorem edit_keeps_rest_iff_urgente : ∃ calls final,
    Runs network (LeMieAttivitaUI.handleModificaTask 0 ⟨0, false⟩ ⟨0, false⟩
      ((dialogDiAnna .urgente).onSave ⟨0, false⟩))
      (Store.empty.put .todo "t" LeMieAttivita.urgente.toMap) calls (.ok none) final ∧
    SoloCampi (Store.empty.put .todo "t" LeMieAttivita.urgente.toMap) final "t"
      (campiDelDialog (dialogDiAnna .urgente)) := by
  have saved : ComeSalvata ⟨0, false⟩ LeMieAttivita.urgente.toMap :=
    ⟨rfl, rfl, ⟨nofun, nofun⟩, ⟨nofun, nofun⟩, ⟨nofun, nofun⟩,
      (LeMieAttivita.scritta_toMap _).2⟩
  obtain ⟨calls, final, run⟩ : ∃ calls final, Runs network
      (LeMieAttivitaUI.handleModificaTask 0 ⟨0, false⟩ ⟨0, false⟩
        ((dialogDiAnna .urgente).onSave ⟨0, false⟩))
      (Store.empty.put .todo "t" LeMieAttivita.urgente.toMap) calls (.ok none) final :=
    ⟨_, _, .of_runAlone [.inr ""] rfl⟩
  have kept := edit_keeps_rest_iff rfl (LeMieAttivita.decodes_toMap "t" .urgente) run
  exact ⟨calls, final, run, kept.1.mpr saved⟩

def conFile : LeMieAttivita := { LeMieAttivita.urgente with fileUri := some "capitolo.pdf" }

/-- Anna saves the day after without changing anything: the file is lost, and the
task has been created now. -/
theorem edit_loses_file : ∃ calls final after,
    Runs network (LeMieAttivitaUI.handleModificaTask 0 ⟨0, false⟩ ⟨microsPerDay, false⟩
      ((dialogDiAnna conFile).onSave ⟨microsPerDay, false⟩))
      (Store.empty.put .todo "t" conFile.toMap) calls (.ok none) final ∧
    final.get .todo "t" = some after ∧
    conFile.toMap "fileUri" = some (.string "capitolo.pdf") ∧ after "fileUri" = some .null ∧
    conFile.toMap "dataCreazione" = some (.timestamp ⟨0⟩) ∧
    after "dataCreazione" = some (.timestamp ⟨microsPerDay⟩) ∧
    ¬ SoloCampi (Store.empty.put .todo "t" conFile.toMap) final "t"
      (campiDelDialog (dialogDiAnna conFile)) := by
  refine ⟨_, _, _, .of_runAlone [.inr ""] rfl, rfl, rfl, rfl, rfl, rfl, ?_⟩
  rintro ⟨_, found, only⟩
  cases found
  cases congrFun (Option.some.inj (only .todo "t")) "fileUri"

/-! ## The deadline -/

/-- The task is stored as a move of its deadline writes it: created at the
deadline, with no file, and with the other fields there. -/
structure ComeSpostata (d : Document) : Prop where
  dataCreazione : d "dataCreazione" = d "dataScadenza"
  fileUri : d "fileUri" = some .null
  titolo : Value.Presente (d "titolo")
  descrizione : Value.Presente (d "descrizione")
  priorita : ∃ p : Priorita, d "priorita" = some (.string p.name)
  completato : Value.Presente (d "completato")
  progetto : Value.Presente (d "progetto")
  utenti : Value.Presente (d "utenti")
  altri : ∀ name ∉ campi, d name = none

section
variable {now : DateTime} {s final : Store} {id : String} {d : Document} {a : LeMieAttivita}
    {scadenza : DateTime}

def nuovaScadenza (scadenza : DateTime) : List (String × FieldWrite) :=
  [("dataScadenza", .value (.timestamp (.fromDate scadenza)))]

def spostata (now : DateTime) (id : String) (a : LeMieAttivita) (scadenza : DateTime) :
    LeMieAttivita :=
  .new now (some id) a.titolo a.descrizione scadenza a.priorita a.completato a.progetto a.utenti
    none (some a.dataScadenza)

theorem spostata_toMap_iff (decodes : Decodes id d a) :
    (spostata now id a scadenza).toMap = d.writes (nuovaScadenza scadenza) ↔ ComeSpostata d := by
  have dataScadenza := dataScadenza_eq decodes
  rw [LeMieAttivita.toMap_eq_iff, altri_writes_iff (by simp [nuovaScadenza, campi])]
  constructor
  · rintro ⟨scritta, altri⟩
    exact ⟨scritta.dataCreazione.trans dataScadenza.symm, scritta.fileUri,
      (Value.eq_string_iff decodes.titolo).mp scritta.titolo,
      (Value.eq_string_iff decodes.descrizione).mp scritta.descrizione, ⟨_, scritta.priorita⟩,
      (Value.eq_bool_iff decodes.completato).mp scritta.completato,
      (Value.eq_string_iff decodes.progetto).mp scritta.progetto,
      (Value.eq_strings_iff decodes.utenti).mp scritta.utenti, altri⟩
  · rintro ⟨dataCreazione, fileUri, titolo, descrizione, priorita, completato, progetto, utenti,
      altri⟩
    exact ⟨⟨(Value.eq_string_iff decodes.titolo).mpr titolo,
      (Value.eq_string_iff decodes.descrizione).mpr descrizione, rfl,
      dataCreazione.trans dataScadenza, (priorita_iff decodes).mpr priorita,
      (Value.eq_bool_iff decodes.completato).mpr completato,
      (Value.eq_string_iff decodes.progetto).mpr progetto,
      (Value.eq_strings_iff decodes.utenti).mpr utenti, fileUri⟩, altri⟩

theorem spostata_toMap_eq_iff {now' now'' prima : DateTime} :
    (spostata now' id ((spostata now id a prima).riletta id) scadenza).toMap =
        (spostata now'' id a scadenza).toMap ↔
      Timestamp.fromDate a.dataScadenza = Timestamp.fromDate prima := by
  rw [LeMieAttivita.toMap_eq_iff]
  constructor
  · rintro ⟨scritta, -⟩
    exact Value.timestamp.inj (Option.some.inj scritta.dataCreazione)
  · intro same
    have dataCreazione : (spostata now'' id a scadenza).toMap "dataCreazione" =
        some (.timestamp (.fromDate prima)) := congrArg (fun t => some (Value.timestamp t)) same
    obtain ⟨scritta, altri⟩ := LeMieAttivita.scritta_toMap (spostata now'' id a scadenza)
    exact ⟨⟨scritta.titolo, scritta.descrizione, scritta.dataScadenza, dataCreazione,
      scritta.priorita, scritta.completato, scritta.progetto, scritta.utenti, scritta.fileUri⟩,
      altri⟩

theorem runs_sposta {calls : List (Exchange firestore Thrown)} (named : a.id = some id)
    (run : Runs network (LeMieAttivitaViewModel.updateDataScadenzaTodo now a scadenza) s calls
      (.ok none) final) : final = s.put .todo id (spostata now id a scadenza).toMap := by
  rcases runs_updateDataScadenzaTodo named run with ⟨-, failed⟩ | same
  · exact absurd rfl failed
  · exact same

end

/-- A move of the deadline changes the deadline and nothing else just when the task
is stored as such a move writes it; a move that is followed by another one is as if
the other one had been made alone just when it leaves the deadline where it was. -/
theorem moving_deadline_iff {s : Store} {id : String} {d : Document} {a : LeMieAttivita}
    (stored : s.get .todo id = some d) (decodes : Decodes id d a) :
    (∀ now scadenza calls final,
      Runs network (LeMieAttivitaViewModel.updateDataScadenzaTodo now a scadenza) s calls
        (.ok none) final →
      (SoloCampi s final id (nuovaScadenza scadenza) ↔ ComeSpostata d)) ∧
    ∀ now now' now'' prima scadenza calls calls' calls'' mid final alone b,
      Runs network (LeMieAttivitaViewModel.updateDataScadenzaTodo now a prima) s calls
        (.ok none) mid →
      LeMieAttivita.fromFirestore id (mid.get .todo id) = .ok b →
      Runs network (LeMieAttivitaViewModel.updateDataScadenzaTodo now' b scadenza) mid calls'
        (.ok none) final →
      Runs network (LeMieAttivitaViewModel.updateDataScadenzaTodo now'' a scadenza) s calls''
        (.ok none) alone →
      (final.get .todo id = alone.get .todo id ↔
        d "dataScadenza" = some (.timestamp (.fromDate prima))) := by
  constructor
  · intro now scadenza calls final run
    rw [runs_sposta decodes.id run, soloCampi_put_iff stored, spostata_toMap_iff decodes]
  · intro now now' now'' prima scadenza calls calls' calls'' mid final alone b
      first read second only
    cases runs_sposta decodes.id first
    rw [Store.get_put_self] at read
    obtain ⟨_, same, decodes'⟩ := LeMieAttivita.fromFirestore_eq_ok.mp read
    cases same
    cases decodes'.unique (LeMieAttivita.decodes_toMap id (spostata now id a prima))
    rw [runs_sposta rfl second, runs_sposta decodes.id only, Store.get_put_self,
      Store.get_put_self, Option.some.injEq, spostata_toMap_eq_iff, dataScadenza_eq decodes,
      Option.some.injEq, Value.timestamp.injEq]

def scadutaSubito : LeMieAttivita :=
  { LeMieAttivita.urgente with dataCreazione := ⟨microsPerDay, false⟩ }

theorem moving_deadline_iff_scadutaSubito : ∃ calls final,
    Runs network (LeMieAttivitaViewModel.updateDataScadenzaTodo ⟨0, false⟩ scadutaSubito
      ⟨2 * microsPerDay, false⟩) (Store.empty.put .todo "t" scadutaSubito.toMap) calls (.ok none)
      final ∧
    SoloCampi (Store.empty.put .todo "t" scadutaSubito.toMap) final "t"
      (nuovaScadenza ⟨2 * microsPerDay, false⟩) := by
  have saved : ComeSpostata scadutaSubito.toMap :=
    ⟨rfl, rfl, ⟨nofun, nofun⟩, ⟨nofun, nofun⟩, ⟨.alta, rfl⟩, ⟨nofun, nofun⟩, ⟨nofun, nofun⟩,
      ⟨nofun, nofun⟩, (LeMieAttivita.scritta_toMap _).2⟩
  obtain ⟨calls, final, run⟩ : ∃ calls final, Runs network
      (LeMieAttivitaViewModel.updateDataScadenzaTodo ⟨0, false⟩ scadutaSubito
        ⟨2 * microsPerDay, false⟩) (Store.empty.put .todo "t" scadutaSubito.toMap) calls (.ok none)
      final := ⟨_, _, .of_runAlone [.inr ""] rfl⟩
  have moved := moving_deadline_iff (Store.get_put_self Store.empty .todo "t" scadutaSubito.toMap)
    (LeMieAttivita.decodes_toMap "t" scadutaSubito)
  exact ⟨calls, final, run, (moved.1 _ _ _ _ run).mpr saved⟩

/-- A move of the deadline by a day makes the task created at its old deadline, and
its file is lost. -/
theorem moving_deadline_moves_creation : ∃ calls final after,
    Runs network (LeMieAttivitaViewModel.updateDataScadenzaTodo ⟨0, false⟩ conFile
      ⟨2 * microsPerDay, false⟩) (Store.empty.put .todo "t" conFile.toMap) calls (.ok none) final ∧
    final.get .todo "t" = some after ∧
    conFile.toMap "dataCreazione" = some (.timestamp ⟨0⟩) ∧
    after "dataCreazione" = some (.timestamp ⟨microsPerDay⟩) ∧
    conFile.toMap "fileUri" = some (.string "capitolo.pdf") ∧ after "fileUri" = some .null ∧
    ¬ SoloCampi (Store.empty.put .todo "t" conFile.toMap) final "t"
      (nuovaScadenza ⟨2 * microsPerDay, false⟩) := by
  refine ⟨_, _, _, .of_runAlone [.inr ""] rfl, rfl, rfl, rfl, rfl, rfl, ?_⟩
  rintro ⟨_, found, only⟩
  cases found
  cases congrFun (Option.some.inj (only .todo "t")) "fileUri"

end TeamSync.Tasks
