import Mathlib.Data.List.Basic
import TeamSync.Session.Registration

/-! The addresses that the checks of the forms accept. -/

set_option autoImplicit false

namespace TeamSync.Session

open Effects ViewModelUtente

/-- Exactly one `@`, with a text before it, and with a `.` between two texts after it. -/
def Indirizzo (testo : List Char) : Prop :=
  testo.count '@' = 1 ∧ ∃ loc dom top, testo = loc ++ '@' :: (dom ++ '.' :: top) ∧ loc ≠ [] ∧
    dom ≠ [] ∧ top ≠ []

def ammesso (c : Char) : Bool := alfanumerico c || c ∈ ".!#$%&'*+/=?^_`\x7b|\x7d~-".toList

/-- The part before the first `@` has only characters that the reset accepts there; the part
from there to the next `.` is a word of letters and digits, and a letter follows. -/
def Comune (testo : List Char) : Prop :=
  ∀ loc dom top, testo = loc ++ '@' :: (dom ++ '.' :: top) → '@' ∉ loc → '.' ∉ dom →
    (∀ c ∈ loc, ammesso c = true) ∧ (dom ≠ [] ∧ ∀ c ∈ dom, alfanumerico c = true) ∧
      ∃ c ∈ top.head?, c.isAlpha = true

section
variable {testo : List Char}

theorem formatoEmail_iff : formatoEmail.matchesPrefix testo = true ↔
    ∃ loc dom c more, testo = loc ++ '@' :: (dom ++ '.' :: c :: more) ∧ (loc ≠ [] ∧ '@' ∉ loc) ∧
      (dom ≠ [] ∧ '@' ∉ dom) ∧ c ≠ '@' := by
  rw [formatoEmail, RegExp.separated_iff]
  simp only [decide_eq_true_eq, ← List.forall_mem_ne']

theorem formatoEmailReset_iff : formatoEmailReset.matchesPrefix testo = true ↔
    ∃ loc dom c more, testo = loc ++ '@' :: (dom ++ '.' :: c :: more) ∧
      (loc ≠ [] ∧ ∀ c ∈ loc, ammesso c = true) ∧ (dom ≠ [] ∧ ∀ c ∈ dom, alfanumerico c = true) ∧
        c.isAlpha = true :=
  RegExp.separated_iff

theorem notMem_of_ammesso {loc : List Char} (all : ∀ c ∈ loc, ammesso c = true) : '@' ∉ loc := by
  intro member
  exact absurd (all '@' member) (by decide)

theorem notMem_of_alfanumerico {xs : List Char} {c : Char} (all : ∀ c ∈ xs, alfanumerico c = true)
    (other : alfanumerico c = false) : c ∉ xs := by
  intro member
  exact absurd (all c member) (by simp [other])

theorem append_cons_inj_first {a : Char} {xs ys xs' ys' : List Char}
    (same : xs ++ a :: ys = xs' ++ a :: ys') (absent : a ∉ xs) (absent' : a ∉ xs') :
    xs = xs' ∧ ys = ys' := by
  induction xs generalizing xs' with
  | nil =>
    cases xs' with
    | nil => exact ⟨rfl, (List.cons.inj same).2⟩
    | cons x xs' =>
      cases (List.cons.inj same).1
      exact absurd List.mem_cons_self absent'
  | cons x xs ih =>
    cases xs' with
    | nil =>
      cases (List.cons.inj same).1
      exact absurd List.mem_cons_self absent
    | cons x' xs' =>
      obtain ⟨rfl, rest⟩ := List.cons.inj same
      obtain ⟨rfl, rfl⟩ := ih rest (fun member => absent (List.mem_cons_of_mem _ member))
        fun member => absent' (List.mem_cons_of_mem _ member)
      exact ⟨rfl, rfl⟩

theorem formatoEmail_of_valid {dati : DatiRegistrazione}
    (valid : validateRegistrationField dati = none) : formatoEmail.hasMatch dati.email = true := by
  by_contra refused
  unfold validateRegistrationField at valid
  split_ifs at valid

/-! ## The two patterns -/

/-- Login and registration accept what the reset accepts. -/
theorem formatoEmail_of_reset (matched : formatoEmailReset.matchesPrefix testo = true) :
    formatoEmail.matchesPrefix testo = true := by
  obtain ⟨loc, dom, c, more, rfl, ⟨loc_ne, loc_all⟩, ⟨dom_ne, dom_all⟩, letter⟩ :=
    formatoEmailReset_iff.mp matched
  refine formatoEmail_iff.mpr ⟨loc, dom, c, more, rfl, ⟨loc_ne, notMem_of_ammesso loc_all⟩,
    ⟨dom_ne, notMem_of_alfanumerico dom_all (by decide)⟩, ?_⟩
  rintro rfl
  exact absurd letter (by decide)

theorem comune_of_reset (matched : formatoEmailReset.matchesPrefix testo = true) :
    Comune testo := by
  obtain ⟨loc, dom, c, more, rfl, ⟨-, loc_all⟩, ⟨dom_ne, dom_all⟩, letter⟩ :=
    formatoEmailReset_iff.mp matched
  intro loc' dom' top same noAt noDot
  obtain ⟨rfl, rest⟩ := append_cons_inj_first same (notMem_of_ammesso loc_all) noAt
  obtain ⟨rfl, rfl⟩ :=
    append_cons_inj_first rest (notMem_of_alfanumerico dom_all (by decide)) noDot
  exact ⟨loc_all, ⟨dom_ne, dom_all⟩, c, rfl, letter⟩

theorem reset_of_comune (matched : formatoEmail.matchesPrefix testo = true)
    (common : Comune testo) : formatoEmailReset.matchesPrefix testo = true := by
  obtain ⟨loc, dom, c, more, rfl, ⟨loc_ne, noAt⟩, -, -⟩ := formatoEmail_iff.mp matched
  -- the domain is looked at up to its first dot, which may come before the one that was matched
  obtain ⟨dom', top, split, noDot⟩ := List.eq_append_cons_of_mem
    (List.mem_append_right dom (List.mem_cons_self (a := '.') (l := c :: more)))
  rw [split] at common ⊢
  obtain ⟨loc_all, dom_all, first, head, letter⟩ := common loc dom' top rfl noAt noDot
  obtain ⟨more', rfl⟩ : ∃ more', top = first :: more' := by
    cases top with
    | nil => cases head
    | cons x top =>
      cases head
      exact ⟨top, rfl⟩
  exact formatoEmailReset_iff.mpr ⟨loc, dom', first, more', rfl, ⟨loc_ne, loc_all⟩, dom_all, letter⟩

/-! ## What login and registration accept -/

theorem formatoEmail_of_indirizzo (address : Indirizzo testo) :
    formatoEmail.matchesPrefix testo = true := by
  obtain ⟨once, loc, dom, top, rfl, loc_ne, dom_ne, top_ne⟩ := address
  have nowhere : loc.count '@' = 0 ∧ dom.count '@' = 0 ∧ top.count '@' = 0 := by
    simp only [List.count_append, List.count_cons_self, List.count_cons_of_ne
      (show '.' ≠ '@' by decide)] at once
    omega
  simp only [List.count_eq_zero] at nowhere
  obtain ⟨noAt, dom_noAt, top_noAt⟩ := nowhere
  cases top with
  | nil => exact absurd rfl top_ne
  | cons c top =>
    refine formatoEmail_iff.mpr ⟨loc, dom, c, top, rfl, ⟨loc_ne, noAt⟩, ⟨dom_ne, dom_noAt⟩, ?_⟩
    rintro rfl
    exact top_noAt List.mem_cons_self

theorem indirizzo_of_formatoEmail (matched : formatoEmail.matchesPrefix testo = true) :
    Indirizzo testo ∨ ∃ pre post, testo = pre ++ '@' :: post ∧ Indirizzo pre := by
  obtain ⟨loc, dom, c, more, rfl, ⟨loc_ne, noAt⟩, ⟨dom_ne, dom_noAt⟩, differ⟩ :=
    formatoEmail_iff.mp matched
  have address : ∀ top, '@' ∉ top → Indirizzo (loc ++ '@' :: (dom ++ '.' :: c :: top)) := by
    intro top top_noAt
    refine ⟨?_, loc, dom, c :: top, rfl, loc_ne, dom_ne, List.cons_ne_nil c top⟩
    simp [List.count_eq_zero.mpr noAt, List.count_eq_zero.mpr dom_noAt,
      List.count_eq_zero.mpr top_noAt, differ]
  by_cases second : '@' ∈ more
  · obtain ⟨top, post, rfl, top_noAt⟩ := List.eq_append_cons_of_mem second
    exact .inr ⟨_, post, by simp, address top top_noAt⟩
  · exact .inl (address more second)

theorem not_indirizzo_append {pre post : List Char} (address : Indirizzo pre) :
    ¬ Indirizzo (pre ++ '@' :: post) := by
  rintro ⟨once, -⟩
  rw [List.count_append, address.1, List.count_cons_self] at once
  omega

end

/-- The reset accepts the same text as login and registration just when these
refuse it, or it has the form that all three accept; so an address that can be
registered can be used for the reset just when it has that form. -/
theorem reset_accepts_the_same_iff (email : String) :
    ((formatoEmailReset.hasMatch email = true ↔ formatoEmail.hasMatch email = true) ↔
      (formatoEmail.hasMatch email = true → Comune email.toList)) ∧
    ∀ dati, dati.email = email → validateRegistrationField dati = none →
      (formatoEmailReset.hasMatch email = true ↔ Comune email.toList) := by
  refine ⟨⟨fun same matched => comune_of_reset (same.mpr matched), fun common => ?_⟩, ?_⟩
  · exact ⟨formatoEmail_of_reset, fun matched => reset_of_comune matched (common matched)⟩
  · rintro dati rfl valid
    exact ⟨comune_of_reset, reset_of_comune (formatoEmail_of_valid valid)⟩

/-- Login and registration accept the addresses and nothing else just where no
`@` follows a beginning that is an address. -/
theorem login_accepts_addresses_iff (email : String) :
    (formatoEmail.hasMatch email = true ↔ Indirizzo email.toList) ↔
      ∀ pre post, email.toList = pre ++ '@' :: post → ¬ Indirizzo pre := by
  constructor
  · intro same pre post split address
    have matched : formatoEmail.matchesPrefix email.toList = true := by
      rw [split]
      exact RegExp.matchesPrefix_append (formatoEmail_of_indirizzo address) _
    have whole := same.mp matched
    rw [split] at whole
    exact not_indirizzo_append address whole
  · intro alone
    refine ⟨fun matched => ?_, formatoEmail_of_indirizzo⟩
    rcases indirizzo_of_formatoEmail matched with address | ⟨pre, post, split, address⟩
    · exact address
    · exact absurd address (alone pre post split)

/-! ## An address with a hyphen, and one with a second `@` -/

/-- Carla can register and log in with an address that the reset refuses. -/
theorem reset_refuses_registered_address :
    formatoEmail.hasMatch "carla@poli-mi.it" = true ∧
    formatoEmailReset.hasMatch "carla@poli-mi.it" = false ∧
    validateRegistrationField { datiDiCarla with email := "carla@poli-mi.it" } = none ∧
    ((resetPassword none "carla@poli-mi.it").exec nessuno).2.moduli.erroreResetPassword =
      some "L'indirizzo email inserito non è valido." := by
  decide

theorem login_accepts_two_addresses :
    formatoEmail.hasMatch "carla@a.it@b" = true ∧ ¬ Indirizzo "carla@a.it@b".toList := by
  refine ⟨by decide, ?_⟩
  rintro ⟨once, -⟩
  exact absurd once (by decide)

end TeamSync.Session
