/-! Patterns anchored at the start of the text. -/

set_option autoImplicit false

namespace TeamSync

/-- One character of a class, or one or more of them. -/
inductive Piece where
  | one (accepts : Char → Bool)
  | many (accepts : Char → Bool)

/-- The pieces after `^`. -/
abbrev RegExp := List Piece

namespace RegExp

/-- The pieces match a beginning of the text, with any repetition. -/
def matchesPrefix : RegExp → List Char → Bool
  | [], _ => true
  | _ :: _, [] => false
  | .one accepts :: rest, c :: text => accepts c && matchesPrefix rest text
  | .many accepts :: rest, c :: text =>
    accepts c && (matchesPrefix rest text || matchesPrefix (.many accepts :: rest) text)
termination_by structural _ text => text

def hasMatch (pattern : RegExp) (text : String) : Bool := pattern.matchesPrefix text.toList

section
variable {accepts : Char → Bool} {rest pattern : RegExp} {text : List Char}

theorem matchesPrefix_one_iff :
    matchesPrefix (.one accepts :: rest) text = true ↔
      ∃ c left, text = c :: left ∧ accepts c = true ∧ matchesPrefix rest left = true := by
  cases text with
  | nil => simp [matchesPrefix]
  | cons c text =>
    simp only [matchesPrefix, Bool.and_eq_true]
    constructor
    · exact fun matched => ⟨c, text, rfl, matched⟩
    · rintro ⟨c, left, ⟨⟩, matched⟩
      exact matched

/-- A repeated piece takes some run of characters, and the other pieces match what is left. -/
theorem matchesPrefix_many_iff :
    matchesPrefix (.many accepts :: rest) text = true ↔
      ∃ run left, text = run ++ left ∧ run ≠ [] ∧ (∀ c ∈ run, accepts c = true) ∧
        matchesPrefix rest left = true := by
  induction text with
  | nil => simp [matchesPrefix]
  | cons c text ih =>
    simp only [matchesPrefix, Bool.and_eq_true, Bool.or_eq_true, ih]
    constructor
    · rintro ⟨accepted, here | ⟨run, left, rfl, -, all, later⟩⟩
      · exact ⟨[c], text, rfl, List.cons_ne_nil _ _, by simpa using accepted, here⟩
      · exact ⟨c :: run, left, rfl, List.cons_ne_nil _ _,
          List.forall_mem_cons.mpr ⟨accepted, all⟩, later⟩
    · rintro ⟨run, left, same, some, all, later⟩
      cases run with
      | nil => exact absurd rfl some
      | cons first run =>
        obtain ⟨rfl, rfl⟩ := List.cons.inj same
        obtain ⟨accepted, all⟩ := List.forall_mem_cons.mp all
        refine ⟨accepted, ?_⟩
        cases run with
        | nil => exact .inl later
        | cons next run =>
          exact .inr ⟨next :: run, left, rfl, List.cons_ne_nil _ _, all, later⟩

/-- A text of the form `x+ a y+ b z`, with anything after it. -/
theorem separated_iff {a b : Char} {first second last : Char → Bool} :
    matchesPrefix [.many first, .one (· = a), .many second, .one (· = b), .many last] text = true ↔
      ∃ xs ys z more, text = xs ++ a :: (ys ++ b :: z :: more) ∧
        (xs ≠ [] ∧ ∀ c ∈ xs, first c = true) ∧ (ys ≠ [] ∧ ∀ c ∈ ys, second c = true) ∧
          last z = true := by
  simp only [matchesPrefix_many_iff, matchesPrefix_one_iff, decide_eq_true_eq]
  constructor
  · rintro ⟨xs, -, rfl, xs_ne, xs_all, -, -, rfl, rfl, ys, -, rfl, ys_ne, ys_all, -, -, rfl, rfl,
      run, left, rfl, run_ne, run_all, -⟩
    cases run with
    | nil => exact absurd rfl run_ne
    | cons z run =>
      exact ⟨xs, ys, z, run ++ left, rfl, ⟨xs_ne, xs_all⟩, ⟨ys_ne, ys_all⟩,
        run_all z List.mem_cons_self⟩
  · rintro ⟨xs, ys, z, more, rfl, ⟨xs_ne, xs_all⟩, ⟨ys_ne, ys_all⟩, accepted⟩
    refine ⟨xs, _, rfl, xs_ne, xs_all, a, _, rfl, rfl, ys, _, rfl, ys_ne, ys_all, b, _, rfl, rfl,
      [z], more, rfl, List.cons_ne_nil _ _, by simpa using accepted, ?_⟩
    cases more <;> rfl

theorem matchesPrefix_append (matched : matchesPrefix pattern text = true) (more : List Char) :
    matchesPrefix pattern (text ++ more) = true := by
  induction text generalizing pattern with
  | nil =>
    cases pattern with
    | nil => cases more <;> rfl
    | cons piece rest => cases matched
  | cons c text ih =>
    cases pattern with
    | nil => rfl
    | cons piece rest =>
      cases piece with
      | one accepts =>
        simp only [List.cons_append, matchesPrefix, Bool.and_eq_true] at matched ⊢
        exact ⟨matched.1, ih matched.2⟩
      | many accepts =>
        simp only [List.cons_append, matchesPrefix, Bool.and_eq_true, Bool.or_eq_true]
          at matched ⊢
        exact ⟨matched.1, matched.2.imp ih ih⟩

end

end RegExp

end TeamSync
