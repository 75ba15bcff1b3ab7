import SurveyLogic.Form

set_option autoImplicit false

namespace SurveyLogic

inductive Severity where
  | error
  | warning
deriving DecidableEq

def Severity.name : Severity → Text
  | error => "error".toList
  | warning => "warning".toList

-- A finding. Rows are counted from one, and the context is the text of the cell.
structure Diagnostic where
  severity : Severity
  code : Text
  message : Text
  row : Option Nat
  question : Option Text
  column : Option Column
  context : Option Text
deriving DecidableEq

namespace Diagnostic

def ofSeverity (severity : Severity) (code message : Text) : Diagnostic :=
  ⟨severity, code, message, none, none, none, none⟩

def error (code message : Text) : Diagnostic := ofSeverity .error code message

def warning (code message : Text) : Diagnostic := ofSeverity .warning code message

def atRow (d : Diagnostic) (row : Nat) (question : Option Text) : Diagnostic :=
  { d with row := some row, question := question }

def inColumn (d : Diagnostic) (column : Column) (context : Text) : Diagnostic :=
  { d with column := some column, context := some context }

end Diagnostic

end SurveyLogic
