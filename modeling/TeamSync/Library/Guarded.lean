import Mathlib.Logic.Relation

/-! Labelled steps that keep a property just when they are allowed. -/

set_option autoImplicit false

namespace Effects

variable {S L : Type} {step : S → L → S → Prop} {allowed : S → L → Prop} {start s : S}

/-- Runs of steps that are allowed in the states they start from. -/
abbrev GuardedRun (step : S → L → S → Prop) (allowed : S → L → Prop) : S → S → Prop :=
  Relation.ReflTransGen fun s t => ∃ label, allowed s label ∧ step s label t

/-- A step, beside the labels so far, the latest first. -/
def Recorded (step : S → L → S → Prop) (before : List L × S) (label : L) (after : List L × S) :
    Prop :=
  step before.2 label after.2 ∧ after.1 = label :: before.1

namespace GuardedRun

theorem invariant (holds : S → Prop) (run : GuardedRun step allowed start s)
    (kept : ∀ {s label t}, holds s → allowed s label → step s label t → holds t)
    (initial : holds start) : holds s := by
  induction run with
  | refl => exact initial
  | tail _ last ih =>
    obtain ⟨label, permitted, taken⟩ := last
    exact kept ih permitted taken

theorem record {allowed : List L × S → L → Prop} {start before : List L × S} {label : L} {t : S}
    (run : GuardedRun (Recorded step) allowed start before) (taken : step before.2 label t)
    (permitted : allowed before label) :
    GuardedRun (Recorded step) allowed start (label :: before.1, t) :=
  run.tail ⟨label, permitted, taken, rfl⟩

theorem unguarded (run : GuardedRun step allowed start s) :
    GuardedRun step (fun _ _ => True) start s :=
  Relation.ReflTransGen.mono (fun _ _ ⟨label, _, taken⟩ => ⟨label, trivial, taken⟩) _ _ run

theorem keeps (invariant good : S → Prop) (run : GuardedRun step allowed start s)
    (kept : ∀ {s label t}, invariant s → step s label t → invariant t)
    (precise : ∀ {s label t}, invariant s → good s → step s label t → (good t ↔ allowed s label))
    (initial : invariant start) (fine : good start) : invariant s ∧ good s := by
  refine run.invariant (fun s => invariant s ∧ good s) (fun before permitted taken => ?_)
    ⟨initial, fine⟩
  exact ⟨kept before.1 taken, (precise before.1 before.2 taken).mpr permitted⟩

/-- The property holds after a run, and after one more step just when that is allowed. -/
theorem iff (invariant good : S → Prop) (run : GuardedRun step allowed start s)
    (kept : ∀ {s label t}, invariant s → step s label t → invariant t)
    (precise : ∀ {s label t}, invariant s → good s → step s label t → (good t ↔ allowed s label))
    (initial : invariant start) (fine : good start) :
    good s ∧ ∀ label t, step s label t → (good t ↔ allowed s label) := by
  obtain ⟨holds, now⟩ := run.keeps invariant good kept precise initial fine
  exact ⟨now, fun _ _ taken => precise holds now taken⟩

end GuardedRun

end Effects
