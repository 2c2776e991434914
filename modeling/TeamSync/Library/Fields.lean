import Mathlib.Data.List.Nodup

/-! Maps given by lists of named entries.

The first entry of a name counts; the lists here name each of their entries once.
-/

set_option autoImplicit false

namespace Fields

variable {K V : Type} [DecidableEq K] {entries : List (K × V)} {m : K → Option V}

theorem lookup_of_mem (distinct : (entries.map Prod.fst).Nodup) {key : K} {value : V}
    (member : (key, value) ∈ entries) : entries.lookup key = some value := by
  induction entries with
  | nil => cases member
  | cons entry rest ih =>
    rw [List.map_cons, List.nodup_cons] at distinct
    rcases List.mem_cons.mp member with rfl | later
    · exact List.lookup_cons_self
    · have differ : key ≠ entry.1 := by
        rintro rfl
        exact distinct.1 (List.mem_map.mpr ⟨(entry.1, value), later, rfl⟩)
      rw [List.lookup_cons, beq_false_of_ne differ]
      exact ih distinct.2 later

theorem lookup_of_notMem {key : K} (absent : key ∉ entries.map Prod.fst) :
    entries.lookup key = none := by
  refine List.lookup_eq_none_iff.mpr fun entry member => bne_iff_ne.mpr ?_
  rintro rfl
  exact absent (List.mem_map_of_mem (f := Prod.fst) member)

theorem lookup_eq_iff (distinct : (entries.map Prod.fst).Nodup) :
    (fun key => entries.lookup key) = m ↔ (∀ entry ∈ entries, m entry.1 = some entry.2) ∧
      ∀ key ∉ entries.map Prod.fst, m key = none := by
  constructor
  · rintro rfl
    exact ⟨fun entry member => lookup_of_mem distinct member, fun key => lookup_of_notMem⟩
  · rintro ⟨listed, others⟩
    funext key
    by_cases named : key ∈ entries.map Prod.fst
    · obtain ⟨entry, member, rfl⟩ := List.mem_map.mp named
      rw [lookup_of_mem distinct member, listed entry member]
    · rw [lookup_of_notMem named, others key named]

theorem lookup_agrees_iff (distinct : (entries.map Prod.fst).Nodup) :
    (∀ key ∈ entries.map Prod.fst, entries.lookup key = m key) ↔
      ∀ entry ∈ entries, m entry.1 = some entry.2 := by
  constructor
  · intro agrees entry member
    rw [← agrees entry.1 (List.mem_map_of_mem (f := Prod.fst) member),
      lookup_of_mem distinct member]
  · intro listed key named
    obtain ⟨entry, member, rfl⟩ := List.mem_map.mp named
    rw [lookup_of_mem distinct member, listed entry member]

end Fields
