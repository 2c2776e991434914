import TeamSync.Cloud.Document

/-! The profile of a user and its stored form. -/

set_option autoImplicit false

namespace TeamSync

inductive SessoUtente where
  | uomo
  | donna
  | altro
  deriving DecidableEq, Repr

namespace SessoUtente

def values : List SessoUtente := [.uomo, .donna, .altro]

def toString : SessoUtente → String
  | .uomo => "SessoUtente.UOMO"
  | .donna => "SessoUtente.DONNA"
  | .altro => "SessoUtente.ALTRO"

def toShortString (sesso : SessoUtente) : String :=
  String.ofList ((sesso.toString.toList.splitOn '.').getLastD [])

def named (value : Option Value) : SessoUtente :=
  (values.find? fun e => value = some (.string e.toShortString)).getD .altro

end SessoUtente

structure ProfiloUtente where
  id : String
  nome : String
  cognome : String
  matricola : String
  dataDiNascita : DateTime
  sesso : SessoUtente
  email : String
  primoAccesso : Bool
  immagine : Option String
  amici : List String
  deriving DecidableEq, Repr

namespace ProfiloUtente

def fromFirestore (id : String) (data : Document) : Except Thrown ProfiloUtente := do
  let sessoEnum := SessoUtente.named (data "sesso")
  let nome ← Value.castString (data "nome")
  let cognome ← Value.castString (data "cognome")
  let matricola ← Value.castString (data "matricola")
  let dataDiNascita ← Value.asTimestamp (data "dataDiNascita")
  let email ← Value.castString (data "email")
  let primoAccesso ← Value.castBool (data "primoAccesso")
  let immagine ← Value.asStringOrNull (data "immagine")
  let amici ← Value.asStrings (data "amici")
  pure {
    id := id
    nome := nome
    cognome := cognome
    matricola := matricola
    dataDiNascita := dataDiNascita.toDate
    sesso := sessoEnum
    email := email
    primoAccesso := primoAccesso
    immagine := immagine
    amici := amici }

end ProfiloUtente

end TeamSync
