import SurveyLogic.Text.Basic

set_option autoImplicit false

namespace SurveyLogic

inductive Column where
  | relevant
  | constraint
deriving DecidableEq

def Column.name : Column → Text
  | relevant => "relevant".toList
  | constraint => "constraint".toList

structure Row where
  type : Text
  name : Option Text
  label : Option Text
  relevant : Option Text
  constraint : Option Text
deriving DecidableEq

namespace Row

def questionName (row : Row) : Option Text :=
  (row.name.map Text.trim).filter (! ·.isEmpty)

def cell (row : Row) : Column → Option Text
  | .relevant => row.relevant
  | .constraint => row.constraint

def logic (row : Row) (column : Column) : Option Text :=
  (row.cell column).filter (! ·.allBlank)

def setLogic (row : Row) (column : Column) (text : Text) : Row :=
  match column with
  | .relevant => { row with relevant := some text }
  | .constraint => { row with constraint := some text }

end Row

structure Form where
  id : Option Text
  survey : List Row
deriving DecidableEq

namespace Form

def empty : Form := ⟨none, []⟩

def questionNames (form : Form) : List Text := form.survey.filterMap Row.questionName

def find? (form : Form) (name : Text) : Option Row :=
  form.survey.find? fun row => row.questionName == some name

inductive Defect where
  | noRows
  | untyped (row : Nat)
deriving DecidableEq

def firstUntyped? (form : Form) : Option Nat :=
  form.survey.findIdx? fun row => row.type.allBlank

def check (form : Form) : Except Defect Form :=
  if form.survey.isEmpty then .error .noRows
  else match form.firstUntyped? with
    | some index => .error (.untyped (index + 1))
    | none => .ok form

def Defect.message : Defect → Text
  | noRows => "Invalid form definition: survey has no rows".toList
  | untyped row =>
    "Invalid form definition: survey row ".toList ++ Text.ofNat row ++ " has no type".toList

end Form

end SurveyLogic
