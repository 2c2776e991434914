/-! Priorities and the texts they are stored as. -/

set_option autoImplicit false

namespace TeamSync

inductive Priorita where
  | alta
  | media
  | bassa
  | nessuna
  deriving DecidableEq, Repr

namespace Priorita

def values : List Priorita := [.alta, .media, .bassa, .nessuna]

def name : Priorita → String
  | .alta => "ALTA"
  | .media => "MEDIA"
  | .bassa => "BASSA"
  | .nessuna => "NESSUNA"

def toString (p : Priorita) : String := "Priorita." ++ p.name

def toShortString (p : Priorita) : String :=
  -- `toString().split('.').last`
  String.ofList ((p.toString.toList.splitOn '.').getLastD [])

@[simp] theorem toShortString_eq_name (p : Priorita) : p.toShortString = p.name := by
  cases p <;> decide

end Priorita

end TeamSync
