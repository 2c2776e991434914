import Mathlib.Data.List.Basic
import TeamSync.Dart.DateTime
import TeamSync.Dart.Thrown

/-! Stored documents, the writes on their fields and the casts that read them. -/

set_option autoImplicit false

namespace TeamSync

/-- An array element; the application stores arrays of strings only. -/
inductive Item where
  | string (s : String)
  | other (n : Nat)
  deriving DecidableEq, Repr

inductive Value where
  | null
  | bool (b : Bool)
  | number (n : Int)
  | string (s : String)
  | timestamp (t : Timestamp)
  | array (items : List Item)
  deriving DecidableEq, Repr

namespace Value

def strings (xs : List String) : Value := .array (xs.map .string)

def asTimestamp : Option Value → Except Thrown Timestamp
  | some (.timestamp t) => .ok t
  | _ => .error .typeError

/-- `value ?? orElse`, used as a `String`. -/
def asString (orElse : String) : Option Value → Except Thrown String
  | none | some .null => .ok orElse
  | some (.string s) => .ok s
  | _ => .error .typeError

def castString : Option Value → Except Thrown String
  | some (.string s) => .ok s
  | _ => .error .typeError

def castBool : Option Value → Except Thrown Bool
  | some (.bool b) => .ok b
  | _ => .error .typeError

def asStringOrNull : Option Value → Except Thrown (Option String)
  | none | some .null => .ok none
  | some (.string s) => .ok (some s)
  | _ => .error .typeError

def asBool (orElse : Bool) : Option Value → Except Thrown Bool
  | none | some .null => .ok orElse
  | some (.bool b) => .ok b
  | _ => .error .typeError

def itemString : Item → Except Thrown String
  | .string s => .ok s
  | .other _ => .error .typeError

def asStrings : Option Value → Except Thrown (List String)
  -- `List<String>.from(value ?? [])`
  | none | some .null => .ok []
  | some (.array items) => items.mapM itemString
  | _ => .error .typeError

theorem mapM_itemString_map (xs : List String) : (xs.map Item.string).mapM itemString = .ok xs := by
  induction xs with
  | nil => rfl
  | cons x xs ih =>
    simp only [List.map_cons, List.mapM_cons, itemString, ih]
    rfl

theorem mapM_itemString_eq_ok {items : List Item} {xs : List String}
    (read : items.mapM itemString = .ok xs) : items = xs.map Item.string := by
  induction items generalizing xs with
  | nil =>
    cases read
    rfl
  | cons item items ih =>
    simp only [List.mapM_cons, bind_eq_ok] at read
    obtain ⟨s, first, ys, rest, same⟩ := read
    cases same
    cases item with
    | other n => cases first
    | string s' =>
      cases first
      rw [ih rest, List.map_cons]

theorem mapM_itemString_ok_iff {items : List Item} :
    (∃ xs, items.mapM itemString = .ok xs) ↔ ∀ item ∈ items, ∃ s, item = .string s := by
  constructor
  · rintro ⟨xs, read⟩ item member
    rw [mapM_itemString_eq_ok read] at member
    obtain ⟨s, -, rfl⟩ := List.mem_map.mp member
    exact ⟨s, rfl⟩
  · intro strings
    obtain ⟨xs, each⟩ := exists_forall₂ (R := fun item s => itemString item = .ok s)
      fun item member => by
        obtain ⟨s, rfl⟩ := strings item member
        exact ⟨s, rfl⟩
    exact ⟨xs, mapM_of_forall₂ each⟩

theorem strings_injective : Function.Injective strings := by
  intro xs ys same
  simp only [strings, Value.array.injEq] at same
  exact List.map_injective_iff.mpr (fun _ _ same => by cases same; rfl) same

@[simp] theorem asStrings_strings (xs : List String) : asStrings (some (strings xs)) = .ok xs :=
  mapM_itemString_map xs

def Presente (field : Option Value) : Prop := field ≠ none ∧ field ≠ some .null

theorem eq_string_iff {field : Option Value} {orElse s : String}
    (read : asString orElse field = .ok s) : field = some (.string s) ↔ Presente field := by
  constructor
  · rintro rfl
    exact ⟨Option.some_ne_none _, fun same => by cases same⟩
  · rintro ⟨there, notNull⟩
    unfold asString at read
    split at read
    · exact absurd rfl there
    · exact absurd rfl notNull
    · cases read
      rfl
    · cases read

theorem eq_bool_iff {field : Option Value} {orElse b : Bool} (read : asBool orElse field = .ok b) :
    field = some (.bool b) ↔ Presente field := by
  constructor
  · rintro rfl
    exact ⟨Option.some_ne_none _, fun same => by cases same⟩
  · rintro ⟨there, notNull⟩
    unfold asBool at read
    split at read
    · exact absurd rfl there
    · exact absurd rfl notNull
    · cases read
      rfl
    · cases read

theorem eq_strings_iff {field : Option Value} {xs : List String}
    (read : asStrings field = .ok xs) : field = some (strings xs) ↔ Presente field := by
  constructor
  · rintro rfl
    exact ⟨Option.some_ne_none _, fun same => by cases same⟩
  · rintro ⟨there, notNull⟩
    unfold asStrings at read
    split at read
    · exact absurd rfl there
    · exact absurd rfl notNull
    · rw [mapM_itemString_eq_ok read, strings]
    · cases read

theorem eq_timestamp {field : Option Value} {t : Timestamp} (read : asTimestamp field = .ok t) :
    field = some (.timestamp t) := by
  unfold asTimestamp at read
  split at read
  · cases read
    rfl
  · cases read

end Value

/-- One field of an update: a value, or an atomic change of the stored array. -/
inductive FieldWrite where
  | value (v : Value)
  | arrayUnion (items : List Item)
  | arrayRemove (items : List Item)
  deriving DecidableEq, Repr

namespace FieldWrite

/-- The array a field holds; any other content counts as no element. -/
def elements : Option Value → List Item
  | some (.array items) => items
  | _ => []

@[simp] theorem elements_array (items : List Item) : elements (some (.array items)) = items := rfl

def apply (write : FieldWrite) (old : Option Value) : Value :=
  match write with
  | .value v => v
  | .arrayUnion items =>
    .array (items.foldl (fun all item => if item ∈ all then all else all ++ [item]) (elements old))
  | .arrayRemove items => .array ((elements old).filter (· ∉ items))

end FieldWrite

theorem Value.elements_of_asStrings {field : Option Value} {xs : List String}
    (read : Value.asStrings field = .ok xs) : FieldWrite.elements field = xs.map .string := by
  unfold Value.asStrings at read
  split at read
  · cases read
    rfl
  · cases read
    rfl
  · next items => exact Value.mapM_itemString_eq_ok read
  · cases read

abbrev Document := String → Option Value

namespace Document

def ofFields (fields : List (String × Value)) : Document := fun name => fields.lookup name

def writes (d : Document) (fields : List (String × FieldWrite)) : Document :=
  fields.foldl (fun d field => Function.update d field.1 (some (field.2.apply (d field.1)))) d

@[simp] theorem writes_one (d : Document) (name : String) (write : FieldWrite) :
    d.writes [(name, write)] = Function.update d name (some (write.apply (d name))) := rfl

theorem writes_of_notMem {fields : List (String × FieldWrite)} {name : String}
    (absent : name ∉ fields.map Prod.fst) (d : Document) : d.writes fields name = d name := by
  induction fields generalizing d with
  | nil => rfl
  | cons field rest ih =>
    rw [List.map_cons, List.mem_cons, not_or] at absent
    exact (ih absent.2 _).trans (Function.update_of_ne absent.1 _ _)

end Document

end TeamSync
