import Mathlib.Data.List.Basic
import TeamSync.Library.Interleaving

/-! Programs whose calls touch different parts of the state.

A state is looked at part by part. A call that touches one part depends on that
part alone and changes no other, so calls on different parts change places, and
an interleaving of programs with a part each is worth their runs in turn.
-/

set_option autoImplicit false

namespace Effects

/-! ## Lists whose neighbours change places -/

/-- The second list is the first, some free neighbours of which have changed places. -/
inductive Reordered {X : Type} (free : X → X → Prop) : List X → List X → Prop where
  | refl {xs : List X} : Reordered free xs xs
  | cons {x : X} {xs ys : List X} : Reordered free xs ys → Reordered free (x :: xs) (x :: ys)
  | swap {x y : X} {xs : List X} : free x y → Reordered free (x :: y :: xs) (y :: x :: xs)
  | trans {xs ys zs : List X} : Reordered free xs ys → Reordered free ys zs → Reordered free xs zs

namespace Reordered

variable {X ι : Type} [DecidableEq ι] {free : X → X → Prop}

theorem mem {xs ys : List X} (moved : Reordered free xs ys) {x : X} : x ∈ ys ↔ x ∈ xs := by
  induction moved with
  | refl => rfl
  | cons _ ih => rw [List.mem_cons, List.mem_cons, ih]
  | swap _ => simp only [List.mem_cons, or_left_comm]
  | trans _ _ first second => rw [second, first]

theorem past {x : X} {block : List X} (rest : List X) (apart : ∀ y ∈ block, free x y) :
    Reordered free (x :: (block ++ rest)) (block ++ x :: rest) := by
  induction block with
  | nil => exact .refl
  | cons y block ih =>
    obtain ⟨first, others⟩ := List.forall_mem_cons.mp apart
    exact .trans (.swap first) (.cons (ih others))

/-- Elements with different tags being free, the list can be sorted by its tags, in any order. -/
theorem byTag {tag : X → ι} {xs : List X} {order : List ι} (distinct : order.Nodup)
    (listed : ∀ x ∈ xs, tag x ∈ order) (apart : ∀ x ∈ xs, ∀ y ∈ xs, tag x ≠ tag y → free x y) :
    Reordered free xs (order.flatMap fun i => xs.filter fun x => tag x = i) := by
  induction xs with
  | nil =>
    have none : (order.flatMap fun i => ([] : List X).filter fun x => tag x = i) = [] := by simp
    rw [none]
    exact .refl
  | cons x xs ih =>
    have sorted := ih (fun y member => listed y (List.mem_cons_of_mem _ member))
      fun y first z second =>
        apart y (List.mem_cons_of_mem _ first) z (List.mem_cons_of_mem _ second)
    obtain ⟨before, after, rfl⟩ := List.append_of_mem (listed x List.mem_cons_self)
    obtain ⟨-, later, disjoint⟩ := List.nodup_append.mp distinct
    have unlike : ∀ i ∈ before ++ after, tag x ≠ i := by
      rintro i member rfl
      rcases List.mem_append.mp member with member | member
      · exact disjoint _ member _ List.mem_cons_self rfl
      · exact (List.nodup_cons.mp later).1 member
    -- the blocks of the other tags do not change
    have same : ∀ tags : List ι, (∀ i ∈ tags, tag x ≠ i) →
        (tags.flatMap fun i => (x :: xs).filter fun y => tag y = i) =
          tags.flatMap fun i => xs.filter fun y => tag y = i := by
      intro tags others
      refine List.flatMap_congr fun i member => ?_
      rw [List.filter_cons_of_neg (by simpa using others i member)]
    have firstBlocks := same before fun i member => unlike i (List.mem_append_left _ member)
    have lastBlocks := same after fun i member => unlike i (List.mem_append_right _ member)
    have own : ((x :: xs).filter fun y => tag y = tag x) = x :: xs.filter fun y => tag y = tag x :=
      List.filter_cons_of_pos (by simp)
    simp only [List.flatMap_append, List.flatMap_cons] at sorted ⊢
    rw [firstBlocks, lastBlocks, own]
    refine .trans (.cons sorted) (past _ fun y member => ?_)
    obtain ⟨i, first, member⟩ := List.mem_flatMap.mp member
    obtain ⟨member, tagged⟩ := List.mem_filter.mp member
    refine apart x List.mem_cons_self y (List.mem_cons_of_mem _ member) fun alike => ?_
    exact unlike i (List.mem_append_left _ first) (alike.trans (of_decide_eq_true tagged))

end Reordered

/-! ## Calls that touch one part -/

variable {I : Interface} {E S A K V : Type}

/-- A call that touches a part changes no other part, and it is answered in the
same way, with the same effect, in every state with the same part. -/
structure Handler.Local (h : Handler I E S) (look : S → K → V) (touches : I.Op → K → Prop) :
    Prop where
  frame : ∀ {choice op s reply final key}, touches op key →
    h.exec choice op s = some (reply, final) →
    ∀ other, other ≠ key → look final other = look s other
  transfer : ∀ {choice op s reply final key t}, touches op key →
    h.exec choice op s = some (reply, final) → look t key = look s key →
    ∃ final', h.exec choice op t = some (reply, final') ∧ look final' key = look final key

/-- The service answers these calls in this way, one after another. -/
inductive Performs (h : Handler I E S) : S → List (Exchange I E) → S → Prop where
  | nil {s : S} : Performs h s [] s
  | cons {choice : h.Choice} {x : Exchange I E} {rest : List (Exchange I E)} {s mid final : S} :
      h.exec choice x.op s = some (x.reply, mid) → Performs h mid rest final →
      Performs h s (x :: rest) final

section
variable {h : Handler I E S} {look : S → K → V} {touches : I.Op → K → Prop} {s t mid final : S}

theorem Performs.append {first rest : List (Exchange I E)} (before : Performs h s first mid)
    (after : Performs h mid rest final) : Performs h s (first ++ rest) final := by
  induction before with
  | nil => exact after
  | cons answered _ ih => exact .cons answered (ih after)

theorem Performs.of_append {first rest : List (Exchange I E)}
    (both : Performs h s (first ++ rest) final) :
    ∃ mid, Performs h s first mid ∧ Performs h mid rest final := by
  induction first generalizing s with
  | nil => exact ⟨s, .nil, both⟩
  | cons x first ih =>
    cases both with
    | cons answered both =>
      obtain ⟨mid, before, after⟩ := ih both
      exact ⟨mid, .cons answered before, after⟩

theorem Performs.runs {p : Process I E A} {calls : List (Exchange I E)} {out : Except E A}
    (performs : Performs h s calls final) (follows : Follows p calls (.ofExcept out)) :
    Runs h p s calls out final := by
  generalize left : Process.ofExcept out = q at follows
  induction follows generalizing s with
  | refl =>
    cases performs
    cases out with
    | ok a =>
      cases left
      exact .done
    | error e =>
      cases left
      exact .raise
  | call _ ih =>
    cases performs with
    | cons answered rest => exact .call answered (ih rest left)

theorem Handler.Local.exec (isLocal : h.Local look touches) {choice : h.Choice} {op : I.Op}
    {reply : Reply I E op} {key : K} (touched : touches op key)
    (answered : h.exec choice op s = some (reply, final)) (same : look t key = look s key) :
    ∃ final', h.exec choice op t = some (reply, final') ∧ look final' key = look final key ∧
      ∀ other, other ≠ key → look final' other = look t other := by
  obtain ⟨final', answered', agree⟩ := isLocal.transfer touched answered same
  exact ⟨final', answered', agree, isLocal.frame touched answered'⟩

/-- No call tells apart states that look the same. -/
theorem Handler.Local.respects (isLocal : h.Local look touches) {choice : h.Choice} {op : I.Op}
    {reply : Reply I E op} {key : K} (touched : touches op key)
    (answered : h.exec choice op s = some (reply, final)) (same : look t = look s) :
    ∃ final', h.exec choice op t = some (reply, final') ∧ look final' = look final := by
  obtain ⟨final', answered', agree, others⟩ := isLocal.exec touched answered (congrFun same key)
  refine ⟨final', answered', funext fun other => ?_⟩
  by_cases own : other = key
  · rw [own, agree]
  · rw [others other own, isLocal.frame touched answered other own, same]

/-- Calls on different parts change places. -/
theorem Handler.Local.commutes (isLocal : h.Local look touches) {choice choice' : h.Choice}
    {x y : Exchange I E} {key key' : K} (first : touches x.op key) (second : touches y.op key')
    (differ : key ≠ key') (answered : h.exec choice x.op s = some (x.reply, mid))
    (answered' : h.exec choice' y.op mid = some (y.reply, final)) :
    ∃ mid' final', h.exec choice' y.op s = some (y.reply, mid') ∧
      h.exec choice x.op mid' = some (x.reply, final') ∧ look final' = look final := by
  have unread := isLocal.frame first answered key' differ.symm
  obtain ⟨mid', early, agree, others⟩ := isLocal.exec second answered' unread.symm
  obtain ⟨final', late, agree', others'⟩ := isLocal.exec first answered (others key differ)
  refine ⟨mid', final', early, late, funext fun other => ?_⟩
  by_cases own : other = key
  · subst own
    rw [agree', isLocal.frame second answered' other differ]
  · rw [others' other own]
    by_cases own' : other = key'
    · rw [own', agree]
    · rw [others other own', isLocal.frame second answered' other own',
        isLocal.frame first answered other own]

theorem Handler.Local.faulty (isLocal : h.Local look touches) : h.faulty.Local look touches where
  frame {choice op s reply final key} touched answered other differ := by
    cases choice with
    | inl e =>
      cases answered
      rfl
    | inr choice => exact isLocal.frame touched answered other differ
  transfer {choice op s reply final key t} touched answered same := by
    cases choice with
    | inl e =>
      cases answered
      exact ⟨t, rfl, same⟩
    | inr choice => exact isLocal.transfer touched answered same

theorem Performs.respects (isLocal : h.Local look touches) {calls : List (Exchange I E)}
    (performs : Performs h s calls final) (within : ∀ x ∈ calls, ∃ key, touches x.op key)
    (same : look t = look s) : ∃ final', Performs h t calls final' ∧ look final' = look final := by
  induction performs generalizing t with
  | nil => exact ⟨t, .nil, same⟩
  | cons answered _ ih =>
    obtain ⟨⟨key, touched⟩, others⟩ := List.forall_mem_cons.mp within
    obtain ⟨mid', answered', agree⟩ := isLocal.respects touched answered same
    obtain ⟨final', performs, agree⟩ := ih others agree
    exact ⟨final', .cons answered' performs, agree⟩

end

/-! ## Programs in turn -/

/-- The programs run alone to their ends, one after another, in the listed order,
each with its exchanges and its outcome. -/
inductive InTurn {ι : Type} (h : Handler I E S) (pool : ι → Process I E A)
    (exchanges : ι → List (Exchange I E)) (outcome : ι → Except E A) : S → List ι → S → Prop where
  | nil {s : S} : InTurn h pool exchanges outcome s [] s
  | cons {i : ι} {rest : List ι} {s mid final : S} :
      Runs h (pool i) s (exchanges i) (outcome i) mid →
      InTurn h pool exchanges outcome mid rest final →
      InTurn h pool exchanges outcome s (i :: rest) final

section
variable {ι : Type} [DecidableEq ι] {h : Handler I E S} {look : S → K → V}
  {touches : I.Op → K → Prop} {guard : Config ι I E S A → ι → Prop} {pool : ι → Process I E A}
  {s : S} {final : Config ι I E S A} {outcome : ι → Except E A}

/-- Entries of the trace whose calls touch different parts. -/
def Apart (touches : I.Op → K → Prop) (x y : ι × Exchange I E) : Prop :=
  ∃ key key', touches x.2.op key ∧ touches y.2.op key' ∧ key ≠ key'

omit [DecidableEq ι] in
theorem Performs.reorder (isLocal : h.Local look touches) {entries moved : List (ι × Exchange I E)}
    {s final : S} (reordered : Reordered (Apart touches) entries moved)
    (within : ∀ x ∈ entries, ∃ key, touches x.2.op key)
    (performs : Performs h s (entries.map Prod.snd) final) :
    ∃ final', Performs h s (moved.map Prod.snd) final' ∧ look final' = look final := by
  induction reordered generalizing s final with
  | refl => exact ⟨final, performs, rfl⟩
  | cons _ ih =>
    cases performs with
    | cons answered rest =>
      obtain ⟨final', rest, agree⟩ := ih (List.forall_mem_cons.mp within).2 rest
      exact ⟨final', .cons answered rest, agree⟩
  | swap apart =>
    obtain ⟨key, key', first, second, differ⟩ := apart
    cases performs with
    | cons answered rest =>
      cases rest with
      | cons answered' rest =>
        obtain ⟨mid, last, early, late, agree⟩ :=
          isLocal.commutes first second differ answered answered'
        have others : ∀ x ∈ _, _ := (List.forall_mem_cons.mp (List.forall_mem_cons.mp within).2).2
        obtain ⟨final', rest, agree⟩ := rest.respects isLocal
          (List.forall_mem_map.mpr others) agree
        exact ⟨final', .cons early (.cons late rest), agree⟩
  | trans earlier _ first second =>
    obtain ⟨mid, performs, agree⟩ := first within performs
    obtain ⟨final', performs, agree'⟩ := second (fun x member => within x (earlier.mem.mp member))
      performs
    exact ⟨final', performs, agree'.trans agree⟩

theorem Reaches.performs (reach : Reaches h guard (.start s pool) final) :
    Performs h s (final.trace.reverse.map Prod.snd) final.store := by
  induction reach with
  | refl => exact .nil
  | step _ _ stepped ih =>
    obtain ⟨op, next, reply, -, answered, -, trace⟩ := Config.step_cases stepped
    rw [trace, List.reverse_cons, List.map_append]
    exact ih.append (.cons answered .nil)

omit [DecidableEq ι] in
theorem Performs.inTurn {exchanges : ι → List (Exchange I E)} {order : List ι} {s final : S}
    (follows : ∀ i, Follows (pool i) (exchanges i) (.ofExcept (outcome i)))
    (performs : Performs h s (order.flatMap exchanges) final) :
    InTurn h pool exchanges outcome s order final := by
  induction order generalizing s with
  | nil =>
    cases performs
    exact .nil
  | cons i rest ih =>
    obtain ⟨mid, own, others⟩ := performs.of_append
    exact .cons (own.runs (follows i)) (ih others)

/-- An interleaving of programs, each of which touches a part of its own, is worth
their runs in turn: every program gets the replies it got, and the parts are the same. -/
theorem Reaches.inTurn (reach : Reaches h guard (.start s pool) final)
    (isLocal : h.Local look touches) {key : ι → K} (distinct : Function.Injective key)
    (only : ∀ i, (pool i).OnlyCalls fun op => touches op (key i))
    (ended : ∀ i, final.pool i = .ofExcept (outcome i)) {order : List ι} (once : order.Nodup)
    (everyone : ∀ entry ∈ final.trace, entry.1 ∈ order) :
    ∃ final', InTurn h pool final.own outcome s order final' ∧ look final' = look final.store := by
  have touched : ∀ entry ∈ final.trace.reverse, touches entry.2.op (key entry.1) := by
    intro entry member
    refine (reach.follows entry.1).onlyCalls (only entry.1) entry.2 ?_
    exact Config.mem_own.mpr (List.mem_reverse.mp member)
  have sorted : Reordered (Apart touches) final.trace.reverse
      (order.flatMap fun i => final.trace.reverse.filter fun x => x.1 = i) := by
    refine .byTag once (fun x member => everyone x (List.mem_reverse.mp member)) ?_
    intro x first y second differ
    exact ⟨key x.1, key y.1, touched x first, touched y second, fun same => differ (distinct same)⟩
  have blocks : (order.flatMap fun i => final.trace.reverse.filter fun x => x.1 = i).map Prod.snd =
      order.flatMap final.own := by
    rw [List.map_flatMap]
    refine List.flatMap_congr fun i _ => ?_
    rw [Config.own, List.filter_reverse, List.map_reverse]
  obtain ⟨final', performs, agree⟩ := reach.performs.reorder isLocal sorted
    fun x member => ⟨_, touched x member⟩
  rw [blocks] at performs
  exact ⟨final', performs.inTurn fun i => ended i ▸ reach.follows i, agree⟩

end

end Effects
