import Mathlib.Data.List.AList
import Mathlib.Data.Finset.Insert

/-! Keyed collections that remember every key they ever held.

A key that is used and no longer stored has been deleted, so that freshness and
deletion can be told apart without a history.
-/

set_option autoImplicit false

/-- The order of the entries is not part of what a collection means. -/
structure Collection (K V : Type) [DecidableEq K] where
  docs : AList fun _ : K => V
  used : Finset K
  stored_used : ∀ key ∈ docs, key ∈ used

namespace Collection

variable {K V : Type} [DecidableEq K]

def empty : Collection K V := ⟨∅, ∅, fun _ member => absurd member (AList.notMem_empty _)⟩

instance : Inhabited (Collection K V) := ⟨empty⟩

def get (c : Collection K V) (key : K) : Option V := c.docs.lookup key

def put (c : Collection K V) (key : K) (value : V) : Collection K V where
  docs := c.docs.insert key value
  used := insert key c.used
  stored_used other member := by
    rcases (AList.mem_insert _).mp member with same | member
    · exact same ▸ Finset.mem_insert_self _ _
    · exact Finset.mem_insert_of_mem (c.stored_used other member)

def erase (c : Collection K V) (key : K) : Collection K V where
  docs := c.docs.erase key
  used := c.used
  stored_used other member := c.stored_used other (AList.mem_erase.mp member).2

def select (c : Collection K V) (wanted : V → Bool) : List (K × V) :=
  (c.docs.entries.map fun entry => (entry.1, entry.2)).filter fun entry => wanted entry.2

@[simp] theorem get_put_self (c : Collection K V) (key : K) (value : V) :
    (c.put key value).get key = some value := AList.lookup_insert _

@[simp] theorem get_put_of_ne (c : Collection K V) {key other : K} (value : V)
    (differ : other ≠ key) :
    (c.put key value).get other = c.get other := AList.lookup_insert_ne differ

theorem get_put (c : Collection K V) (key other : K) (value : V) :
    (c.put key value).get other = if other = key then some value else c.get other := by
  split
  · next same => subst same; simp
  · next differ => simp [differ]

@[simp] theorem get_erase_self (c : Collection K V) (key : K) : (c.erase key).get key = none :=
  AList.lookup_erase _ _

@[simp] theorem get_erase_of_ne (c : Collection K V) {key other : K} (differ : other ≠ key) :
    (c.erase key).get other = c.get other := AList.lookup_erase_ne differ

theorem get_erase (c : Collection K V) (key other : K) :
    (c.erase key).get other = if other = key then none else c.get other := by
  split
  · next same => subst same; simp
  · next differ => simp [differ]

@[simp] theorem used_put (c : Collection K V) (key : K) (value : V) :
    (c.put key value).used = insert key c.used := rfl

@[simp] theorem used_erase (c : Collection K V) (key : K) : (c.erase key).used = c.used := rfl

theorem used_of_get {c : Collection K V} {key : K} {value : V} (found : c.get key = some value) :
    key ∈ c.used :=
  c.stored_used key (AList.lookup_isSome.mp (Option.isSome_iff_exists.mpr ⟨value, found⟩))

theorem mem_select {c : Collection K V} {wanted : V → Bool} {key : K} {value : V} :
    (key, value) ∈ c.select wanted ↔ c.get key = some value ∧ wanted value = true := by
  have stored : (key, value) ∈ c.docs.entries.map (fun entry => (entry.1, entry.2)) ↔
      c.get key = some value := by
    rw [get, ← Option.mem_def, AList.mem_lookup_iff, List.mem_map]
    constructor
    · rintro ⟨⟨_, _⟩, member, same⟩
      cases same
      exact member
    · exact fun member => ⟨_, member, rfl⟩
  rw [select, List.mem_filter, stored]

theorem nodup_select (c : Collection K V) (wanted : V → Bool) :
    ((c.select wanted).map Prod.fst).Nodup := by
  have keys : ((c.docs.entries.map fun entry => (entry.1, entry.2)).map Prod.fst).Nodup := by
    simpa [AList.keys, List.keys, Function.comp_def] using c.docs.keys_nodup
  exact keys.sublist (List.filter_sublist.map Prod.fst)

end Collection
