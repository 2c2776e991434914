import Mathlib.Data.List.Forall2

/-! What the application's Dart code throws. -/

set_option autoImplicit false

namespace TeamSync

/-- A thrown object. An interpolated message keeps its text and the object it
interpolates, so no text is lost and none of the platform's texts is invented. -/
inductive Thrown where
  | firebase (code : String)
  | typeError
  | nullCheck
  | stateError
  | exception (message : String)
  | caused (message : String) (cause : Thrown)
  deriving DecidableEq, Repr

theorem bind_eq_ok {E A B : Type} {first : Except E A} {rest : A → Except E B} {b : B} :
    (first >>= rest) = .ok b ↔ ∃ a, first = .ok a ∧ rest a = .ok b := by
  cases first with
  | ok a => simp [bind, Except.bind]
  | error e => simp [bind, Except.bind]

theorem of_mem_mapM {E A B : Type} {f : A → Except E B} {xs : List A} {ys : List B} {y : B}
    (read : xs.mapM f = .ok ys) (member : y ∈ ys) : ∃ x ∈ xs, f x = .ok y := by
  induction xs generalizing ys with
  | nil =>
    cases read
    cases member
  | cons x xs ih =>
    simp only [List.mapM_cons, bind_eq_ok] at read
    obtain ⟨first, here, rest, later, same⟩ := read
    cases same
    rcases List.mem_cons.mp member with rfl | member
    · exact ⟨x, List.mem_cons_self, here⟩
    · obtain ⟨x', member', found⟩ := ih later member
      exact ⟨x', List.mem_cons_of_mem _ member', found⟩

theorem mapM_of_mem {E A B : Type} {f : A → Except E B} {xs : List A} {ys : List B} {x : A}
    (read : xs.mapM f = .ok ys) (member : x ∈ xs) : ∃ y ∈ ys, f x = .ok y := by
  induction xs generalizing ys with
  | nil => cases member
  | cons first xs ih =>
    simp only [List.mapM_cons, bind_eq_ok] at read
    obtain ⟨y, here, rest, later, same⟩ := read
    cases same
    rcases List.mem_cons.mp member with rfl | member
    · exact ⟨y, List.mem_cons_self, here⟩
    · obtain ⟨y', member', found⟩ := ih later member
      exact ⟨y', List.mem_cons_of_mem _ member', found⟩

theorem exists_forall₂ {A B : Type} {R : A → B → Prop} {xs : List A}
    (each : ∀ x ∈ xs, ∃ y, R x y) : ∃ ys, List.Forall₂ R xs ys := by
  induction xs with
  | nil => exact ⟨[], .nil⟩
  | cons x xs ih =>
    obtain ⟨first, rest⟩ := List.forall_mem_cons.mp each
    obtain ⟨y, here⟩ := first
    obtain ⟨ys, later⟩ := ih rest
    exact ⟨y :: ys, .cons here later⟩

theorem mapM_of_forall₂ {E A B : Type} {f : A → Except E B} {xs : List A} {ys : List B}
    (each : List.Forall₂ (fun x y => f x = .ok y) xs ys) : xs.mapM f = .ok ys := by
  induction each with
  | nil => rfl
  | cons first _ ih =>
    simp only [List.mapM_cons, first, ih]
    rfl

end TeamSync
