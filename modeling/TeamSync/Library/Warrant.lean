import TeamSync.Library.Contract

/-! Calls that what has been exchanged before warrants.

Nothing is asked of the service: a program that makes a call only after certain
replies does so whatever the replies mean, and among any other programs.
-/

set_option autoImplicit false

namespace Effects

variable {I : Interface} {E S A B : Type}

namespace Process

/-- Every call is warranted by the exchanges before it, and so is what is returned.
The exchanges are listed oldest first. -/
def Warranted (warrant : List (Exchange I E) → I.Op → Prop)
    (returns : List (Exchange I E) → A → Prop) : List (Exchange I E) → Process I E A → Prop
  | seen, .done a => returns seen a
  | _, .raise _ => True
  | seen, .call op next => warrant seen op ∧
    ∀ reply, (next reply).Warranted warrant returns (seen ++ [⟨op, reply⟩])

variable {warrant : List (Exchange I E) → I.Op → Prop} {returns : List (Exchange I E) → A → Prop}
  {seen : List (Exchange I E)}

theorem seen_snoc (seen : List (Exchange I E)) (x : Exchange I E) : seen ⊆ seen ++ [x] :=
  List.subset_append_left _ _

theorem Warranted.bind {final : List (Exchange I E) → B → Prop} {p : Process I E A}
    {f : A → Process I E B} (first : p.Warranted warrant returns seen)
    (rest : ∀ a later, seen ⊆ later → returns later a → (f a).Warranted warrant final later) :
    (p.bind f).Warranted warrant final seen := by
  induction p generalizing seen with
  | done a => exact rest a seen (List.Subset.refl _) first
  | raise e => trivial
  | call op next ih =>
    refine ⟨first.1, fun reply => ih reply (first.2 reply) fun a later includes => ?_⟩
    exact rest a later (List.Subset.trans (seen_snoc _ _) includes)

theorem Warranted.map {p : Process I E A} (f : A → B)
    (first : p.Warranted warrant (fun _ _ => True) seen) :
    (f <$> p).Warranted warrant (fun _ _ => True) seen :=
  .bind first fun _ _ _ _ => trivial

theorem Warranted.rescue {p : Process I E A} {handler : E → Process I E A}
    (first : p.Warranted warrant returns seen)
    (raised : ∀ e later, seen ⊆ later → (handler e).Warranted warrant returns later) :
    (p.rescue handler).Warranted warrant returns seen := by
  induction p generalizing seen with
  | done a => exact first
  | raise e => exact raised e seen (List.Subset.refl _)
  | call op next ih =>
    refine ⟨first.1, fun reply => ih reply (first.2 reply) fun e later includes => ?_⟩
    exact raised e later (List.Subset.trans (seen_snoc _ _) includes)

theorem Warranted.of_onlyCalls {allowed : I.Op → Prop} {p : Process I E A}
    (only : p.OnlyCalls allowed)
    (free : ∀ later op, seen ⊆ later → allowed op → warrant later op) :
    p.Warranted warrant (fun _ _ => True) seen := by
  induction p generalizing seen with
  | done a => trivial
  | raise e => trivial
  | call op next ih =>
    refine ⟨free seen op (List.Subset.refl _) only.1, fun reply => ih reply (only.2 reply) ?_⟩
    exact fun later op includes => free later op (List.Subset.trans (seen_snoc _ _) includes)

/-- What a program returns does not depend on why its calls may be made. -/
theorem Warranted.change {other : List (Exchange I E) → I.Op → Prop} {allowed : I.Op → Prop}
    {p : Process I E A} (first : p.Warranted warrant returns seen) (only : p.OnlyCalls allowed)
    (free : ∀ later op, allowed op → other later op) : p.Warranted other returns seen := by
  induction p generalizing seen with
  | done a => exact first
  | raise e => trivial
  | call op next ih =>
    exact ⟨free seen op only.1, fun reply => ih reply (first.2 reply) (only.2 reply)⟩

theorem Warranted.ofExcept {read : Except E A} (promised : ∀ a, read = .ok a → returns seen a) :
    (Process.ofExcept read : Process I E A).Warranted warrant returns seen := by
  cases read with
  | ok a => exact promised a rfl
  | error e => trivial

theorem Warranted.perform {op : I.Op} {returns : List (Exchange I E) → I.Answer op → Prop}
    (warranted : warrant seen op)
    (promised : ∀ answer, returns (seen ++ [⟨op, .ok answer⟩]) answer) :
    (Process.perform op : Process I E (I.Answer op)).Warranted warrant returns seen := by
  refine ⟨warranted, fun reply => ?_⟩
  cases reply with
  | ok answer => exact promised answer
  | error e => trivial

/-- Calls that are guaranteed as soon as the replies that warrant them can be relied on. -/
theorem Warranted.respects {contract : Contract I E} {p : Process I E A}
    (warranted : p.Warranted warrant returns seen)
    (guaranteed : ∀ seen op, (∀ x ∈ seen, contract.rely x.op x.reply) → warrant seen op →
      contract.guarantee op) (relied : ∀ x ∈ seen, contract.rely x.op x.reply) :
    p.Respects contract fun _ => True := by
  induction p generalizing seen with
  | done a => trivial
  | raise e => trivial
  | call op next ih =>
    refine ⟨guaranteed seen op relied warranted.1, fun reply sound => ?_⟩
    refine ih reply (warranted.2 reply) fun x member => ?_
    rcases List.mem_append.mp member with earlier | new
    · exact relied x earlier
    · cases List.mem_singleton.mp new
      exact sound

end Process

variable {warrant : List (Exchange I E) → I.Op → Prop} {returns : List (Exchange I E) → A → Prop}
  {seen : List (Exchange I E)}

theorem Follows.warranted {p left : Process I E A} {exchanges : List (Exchange I E)}
    (follows : Follows p exchanges left) (before : p.Warranted warrant returns seen) :
    left.Warranted warrant returns (seen ++ exchanges) := by
  induction follows generalizing seen with
  | refl =>
    rw [List.append_nil]
    exact before
  | @call op next reply rest left _ ih =>
    have after := ih (before.2 reply)
    rwa [List.append_assoc] at after

section
variable {ι : Type} [DecidableEq ι] {h : Handler I E S} {guard : Config ι I E S A → ι → Prop}
  {pool : ι → Process I E A} {s : S} {c : Config ι I E S A}

/-- In any interleaving, the next call of a warranted program is warranted by its own exchanges. -/
theorem Reaches.warranted (reach : Reaches h guard (.start s pool) c) {i : ι}
    (initially : (pool i).Warranted warrant returns []) {op : I.Op}
    (next : (c.pool i).nextOp = some op) : warrant (c.own i) op := by
  have left := (reach.follows i).warranted initially
  rw [List.nil_append] at left
  generalize c.pool i = p at left next
  cases p with
  | done a => cases next
  | raise e => cases next
  | call _ rest =>
    cases next
    exact left.1

end

end Effects
