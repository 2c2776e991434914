import TeamSync.Session.Logout
import TeamSync.Session.Services

/-! Where the pages of the forms lead.

The pages take the flags down again that they have read. So a form of the pages finds
its flag down, and leads on just when its own call has had its effect.
-/

set_option autoImplicit false

namespace TeamSync.Navigazione

open Effects Session ViewModelUtente

section
variable {d : Dispositivo} {chiave : Nat}

/-- What the page of a form leaves, which takes down the flag it has read. -/
structure Letto (d final : Dispositivo) (chiave : Nat) (s : SistemaConPosta) (alzato : Bool)
    (schermata : Schermata) : Prop where
  auth : final.auth = s.auth
  cloud : final.cloud = s.cloud
  posta : final.posta = s.posta
  up : alzato = true → (final.grafo chiave).pagine = schermata :: (d.grafo chiave).pagine.tail
  down : alzato = false → (final.grafo chiave).pagine = (d.grafo chiave).pagine ∧
    (final.grafo chiave).moduli = s.moduli

end

def Prosegue (d final : Dispositivo) (chiave : Nat) (effetto : Prop) (mete : List Schermata)
    (errore : Option String) : Prop :=
  (effetto → ∃ schermata ∈ mete,
    (final.grafo chiave).pagine = schermata :: (d.grafo chiave).pagine.tail) ∧
  (¬ effetto → (final.grafo chiave).pagine = (d.grafo chiave).pagine ∧ errore ≠ none)

section
variable {passi : List (Dispositivo × Evento)} {d : Dispositivo} {chiave : Nat}

theorem prosegue {final : Dispositivo} {effetto : Prop} {mete : List Schermata}
    {errore : Option String} {alzato : Bool} (same : effetto ↔ alzato = true)
    (up : alzato = true → ∃ schermata ∈ mete,
      (final.grafo chiave).pagine = schermata :: (d.grafo chiave).pagine.tail)
    (down : alzato = false →
      (final.grafo chiave).pagine = (d.grafo chiave).pagine ∧ errore ≠ none) :
    Prosegue d final chiave effetto mete errore :=
  ⟨fun done => up (same.mp done), fun failed => down (by simpa [same] using failed)⟩

theorem Letto.prosegue {final : Dispositivo} {s : SistemaConPosta} {alzato : Bool}
    {schermata : Schermata} (letto : Letto d final chiave s alzato schermata) {effetto : Prop}
    {errore : Moduli → Option String} (truthful : Vera alzato (errore s.moduli) effetto) :
    Prosegue d final chiave effetto [schermata] (errore (final.grafo chiave).moduli) := by
  apply Navigazione.prosegue truthful.1.symm
  · exact fun up => ⟨schermata, List.mem_singleton_self _, letto.up up⟩
  · intro down
    obtain ⟨pages, same⟩ := letto.down down
    refine ⟨pages, fun none => ?_⟩
    rw [same] at none
    cases down.symm.trans (truthful.2.mpr none)

end

def vuoto : Dispositivo := .avviato nessuno.auth nessuno.cloud []

end TeamSync.Navigazione
