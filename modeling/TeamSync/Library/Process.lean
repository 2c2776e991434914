import Mathlib.Logic.Function.Basic

/-! Programs as finite trees of calls to a service whose calls may fail.

A continuation receives either the answer of its call or the error the call
ended with, so that the language's `try` and `catch` are ordinary functions on
trees. Nothing here says what a service does; see `Execution`.
-/

set_option autoImplicit false

namespace Effects

/-- The calls a program can make, and the type of each call's answer. -/
structure Interface where
  Op : Type
  Answer : Op → Type

/-- What a program learns from one call. -/
abbrev Reply (I : Interface) (E : Type) (op : I.Op) := Except E (I.Answer op)

inductive Process (I : Interface) (E A : Type) where
  | done : A → Process I E A
  | raise : E → Process I E A
  | call : (op : I.Op) → (Reply I E op → Process I E A) → Process I E A

namespace Process

variable {I : Interface} {E A B C : Type}

def bind (p : Process I E A) (f : A → Process I E B) : Process I E B :=
  match p with
  | .done a => f a
  | .raise e => .raise e
  | .call op next => .call op fun reply => (next reply).bind f

def rescue (p : Process I E A) (handler : E → Process I E A) : Process I E A :=
  match p with
  | .done a => .done a
  | .raise e => handler e
  | .call op next => .call op fun reply => (next reply).rescue handler

instance : Monad (Process I E) where
  pure := .done
  bind := bind

instance : MonadExceptOf E (Process I E) where
  throw := .raise
  tryCatch := rescue

def ofExcept : Except E A → Process I E A
  | .ok a => .done a
  | .error e => .raise e

def perform (op : I.Op) : Process I E (I.Answer op) :=
  .call op ofExcept

@[simp] theorem pure_eq_done (a : A) : (pure a : Process I E A) = .done a := rfl

@[simp] theorem bind_eq_bind (p : Process I E A) (f : A → Process I E B) :
    (p >>= f) = p.bind f := rfl

@[simp] theorem map_eq_bind (f : A → B) (p : Process I E A) :
    f <$> p = p.bind fun a => .done (f a) := rfl

@[simp] theorem throw_eq_raise (e : E) : (throw e : Process I E A) = .raise e := rfl

@[simp] theorem tryCatch_eq_rescue (p : Process I E A) (handler : E → Process I E A) :
    tryCatch p handler = p.rescue handler := rfl

@[simp] theorem bind_done (a : A) (f : A → Process I E B) :
    (done a : Process I E A).bind f = f a := rfl

@[simp] theorem bind_raise (e : E) (f : A → Process I E B) :
    (raise e : Process I E A).bind f = .raise e := rfl

@[simp] theorem bind_call (op : I.Op) (next : Reply I E op → Process I E A)
    (f : A → Process I E B) :
    (call op next).bind f = .call op fun reply => (next reply).bind f := rfl

@[simp] theorem rescue_done (a : A) (handler : E → Process I E A) :
    (done a : Process I E A).rescue handler = .done a := rfl

@[simp] theorem rescue_raise (e : E) (handler : E → Process I E A) :
    (raise e : Process I E A).rescue handler = handler e := rfl

@[simp] theorem rescue_call (op : I.Op) (next : Reply I E op → Process I E A)
    (handler : E → Process I E A) :
    (call op next).rescue handler = .call op fun reply => (next reply).rescue handler := rfl

@[simp] theorem ofExcept_ok (a : A) : (ofExcept (.ok a) : Process I E A) = .done a := rfl

@[simp] theorem ofExcept_error (e : E) : (ofExcept (.error e) : Process I E A) = .raise e := rfl

def Ended : Process I E A → Prop
  | .call _ _ => False
  | _ => True

instance (p : Process I E A) : Decidable p.Ended :=
  match p with
  | .done _ => .isTrue trivial
  | .raise _ => .isTrue trivial
  | .call _ _ => .isFalse id

def nextOp : Process I E A → Option I.Op
  | .call op _ => some op
  | _ => none

/-- No call is left, or every call that is left satisfies the predicate. -/
def OnlyCalls (allowed : I.Op → Prop) : Process I E A → Prop
  | .call op next => allowed op ∧ ∀ reply, (next reply).OnlyCalls allowed
  | _ => True

section
variable {allowed : I.Op → Prop}

theorem OnlyCalls.mono {wider : I.Op → Prop} {p : Process I E A} (only : p.OnlyCalls allowed)
    (implies : ∀ op, allowed op → wider op) : p.OnlyCalls wider := by
  induction p with
  | done a => trivial
  | raise e => trivial
  | call op next ih => exact ⟨implies op only.1, fun reply => ih reply (only.2 reply)⟩

theorem OnlyCalls.bind {p : Process I E A} {f : A → Process I E B} (first : p.OnlyCalls allowed)
    (rest : ∀ a, (f a).OnlyCalls allowed) : (p.bind f).OnlyCalls allowed := by
  induction p with
  | done a => exact rest a
  | raise e => trivial
  | call op next ih => exact ⟨first.1, fun reply => ih reply (first.2 reply)⟩

theorem OnlyCalls.rescue {p : Process I E A} {handler : E → Process I E A}
    (first : p.OnlyCalls allowed)
    (raised : ∀ e, (handler e).OnlyCalls allowed) : (p.rescue handler).OnlyCalls allowed := by
  induction p with
  | done a => trivial
  | raise e => exact raised e
  | call op next ih => exact ⟨first.1, fun reply => ih reply (first.2 reply)⟩

theorem OnlyCalls.ofExcept (read : Except E A) :
    (Process.ofExcept read : Process I E A).OnlyCalls allowed := by
  cases read <;> trivial

theorem OnlyCalls.perform {op : I.Op} (holds : allowed op) :
    (Process.perform op : Process I E (I.Answer op)).OnlyCalls allowed :=
  ⟨holds, fun reply => .ofExcept reply⟩

theorem OnlyCalls.of_ended {p : Process I E A} (ended : p.Ended) : p.OnlyCalls allowed := by
  cases p with
  | done a => trivial
  | raise e => trivial
  | call op next => exact ended.elim

end

end Process
end Effects
