import TeamSync.Library.Execution

/-! Complete runs of programs, one after another.

The history lists the calls that have ended, newest first, each with its
exchanges. Which call may come next can depend on the history.
-/

set_option autoImplicit false

namespace Effects

variable {I : Interface} {E S A C : Type}

structure Completed (C : Type) (I : Interface) (E : Type) where
  call : C
  exchanges : List (Exchange I E)

/-- Each listed call was allowed when it started, and ran to its end alone. -/
inductive Sequence (h : Handler I E S) (process : C → Process I E A)
    (allowed : List (Completed C I E) → S → C → Prop) (s : S) :
    List (Completed C I E) → S → Prop where
  | start : Sequence h process allowed s [] s
  | next {history : List (Completed C I E)} {mid final : S} {call : C}
      {exchanges : List (Exchange I E)}
      {out : Except E A} : Sequence h process allowed s history mid → allowed history mid call →
      Runs h (process call) mid exchanges out final →
      Sequence h process allowed s (⟨call, exchanges⟩ :: history) final

theorem Sequence.alone {h : Handler I E S} {process : C → Process I E A}
    {allowed : List (Completed C I E) → S → C → Prop} {s mid final : S}
    {history : List (Completed C I E)}
    {exchanges : List (Exchange I E)} {out : Except E A}
    (sequence : Sequence h process allowed s history mid)
    (call : C) (choices : List h.Choice) (permitted : allowed history mid call)
    (ran : (process call).runAlone h choices mid = some (exchanges, out, final)) :
    Sequence h process allowed s (⟨call, exchanges⟩ :: history) final :=
  sequence.next permitted (.of_runAlone choices ran)

/-- A property of the history and the state that every allowed call keeps. -/
theorem Sequence.invariant {h : Handler I E S} {process : C → Process I E A}
    {allowed : List (Completed C I E) → S → C → Prop} {holds : List (Completed C I E) → S → Prop}
    {s final : S}
    {history : List (Completed C I E)} (sequence : Sequence h process allowed s history final)
    (keeps : ∀ history mid call exchanges out final, holds history mid → allowed history mid call →
      Runs h (process call) mid exchanges out final → holds (⟨call, exchanges⟩ :: history) final)
    (initial : holds [] s) : holds history final := by
  induction sequence with
  | start => exact initial
  | next _ permitted run ih => exact keeps _ _ _ _ _ _ ih permitted run

end Effects
