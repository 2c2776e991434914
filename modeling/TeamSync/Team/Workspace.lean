import Mathlib.Data.Finset.Erase
import Mathlib.Data.Finset.Insert
import Mathlib.Data.Multiset.AddSub
import Mathlib.Logic.Function.Basic

/-! What the calls are for: groups of users, and the tasks of the groups.

A group that nobody belongs to cannot be built, nor a task without a title or
without an assignee. Identifiers and users are of any type.
-/

set_option autoImplicit false

namespace TeamSync.Team

structure Gruppo (U : Type) where
  codice : String
  nome : String
  concluso : Bool
  membri : Finset U
  abitato : membri.Nonempty

/-- A task of a group. A user who is assigned twice counts twice. -/
structure Compito (K U : Type) where
  gruppo : K
  titolo : String
  completato : Bool
  assegnatari : Multiset U
  intitolato : titolo ≠ ""
  affidato : assegnatari ≠ 0

section
variable {K U : Type} [DecidableEq U]

def Gruppo.entra (g : Gruppo U) (user : U) : Gruppo U :=
  { g with membri := insert user g.membri, abitato := Finset.insert_nonempty user g.membri }

/-- The last member to leave leaves no group. -/
def Gruppo.esce (g : Gruppo U) (user : U) : Option (Gruppo U) :=
  if rimasti : (g.membri.erase user).Nonempty then
    some { g with membri := g.membri.erase user, abitato := rimasti }
  else none

omit [DecidableEq U] in
def Compito.assegna (t : Compito K U) (user : U) : Compito K U :=
  { t with assegnatari := user ::ₘ t.assegnatari, affidato := Multiset.cons_ne_zero }

/-- The last assignee to be withdrawn leaves no task. -/
def Compito.ritira (t : Compito K U) (user : U) : Option (Compito K U) :=
  if rimasti : t.assegnatari.erase user ≠ 0 then
    some { t with assegnatari := t.assegnatari.erase user, affidato := rimasti }
  else none

end

structure Spazio (K U : Type) where
  gruppi : K → Option (Gruppo U)
  compiti : K → Option (Compito K U)

inductive Evento (K U : Type) where
  | fonda (id : K) (g : Gruppo U)
  | entra (id : K) (user : U)
  | esce (id : K) (user : U)
  | modifica (id : K) (nome : String) (concluso : Bool)
  | apri (id : K) (t : Compito K U)
  -- a task is replaced by what a page has shown of it, also when it is closed meanwhile
  | riscrivi (id : K) (t : Compito K U)
  | completa (id : K) (completato : Bool)
  | assegna (id : K) (user : U)
  | ritira (id : K) (user : U)
  | chiudi (id : K)

namespace Spazio

variable {K U : Type}

def vuoto : Spazio K U := ⟨fun _ => none, fun _ => none⟩

variable [DecidableEq K]

def conGruppo (w : Spazio K U) (id : K) (g : Option (Gruppo U)) : Spazio K U :=
  { w with gruppi := Function.update w.gruppi id g }

def conCompito (w : Spazio K U) (id : K) (t : Option (Compito K U)) : Spazio K U :=
  { w with compiti := Function.update w.compiti id t }

section
variable (w : Spazio K U) (id other : K) (g : Option (Gruppo U)) (t : Option (Compito K U))

@[simp] theorem gruppi_conGruppo :
    (w.conGruppo id g).gruppi other = if other = id then g else w.gruppi other :=
  Function.update_apply w.gruppi id g other

@[simp] theorem compiti_conGruppo : (w.conGruppo id g).compiti = w.compiti := rfl

@[simp] theorem compiti_conCompito :
    (w.conCompito id t).compiti other = if other = id then t else w.compiti other :=
  Function.update_apply w.compiti id t other

@[simp] theorem gruppi_conCompito : (w.conCompito id t).gruppi = w.gruppi := rfl

end

variable [DecidableEq U]

def dopo (w : Spazio K U) : Evento K U → Spazio K U
  | .fonda id g => w.conGruppo id (some g)
  | .entra id user => w.conGruppo id ((w.gruppi id).map (·.entra user))
  | .esce id user => w.conGruppo id ((w.gruppi id).bind (·.esce user))
  | .modifica id nome concluso =>
    w.conGruppo id ((w.gruppi id).map fun g => { g with nome := nome, concluso := concluso })
  | .apri id t | .riscrivi id t => w.conCompito id (some t)
  | .completa id completato =>
    w.conCompito id ((w.compiti id).map fun t => { t with completato := completato })
  | .assegna id user => w.conCompito id ((w.compiti id).map (·.assegna user))
  | .ritira id user => w.conCompito id ((w.compiti id).bind (·.ritira user))
  | .chiudi id => w.conCompito id none

end Spazio

end TeamSync.Team
