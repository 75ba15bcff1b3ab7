import SurveyLogic.Codec.Form
import SurveyLogic.Codec.Logic
import SurveyLogic.Validation

set_option autoImplicit false

namespace SurveyLogic

open Json (Decoder field member memberIfAny)

namespace Severity

def encode (severity : Severity) : Json := .ofText severity.name

def ofName? (name : Text) : Option Severity := [error, warning].find? fun s => s.name = name

def decode : Decoder Severity := Json.oneOf ofName?

end Severity

namespace Diagnostic

def encode (d : Diagnostic) : Json :=
  .ofMembers (member "severity" d.severity.encode ++ member "code" (.ofText d.code) ++
    member "message" (.ofText d.message) ++ memberIfAny "row" (d.row.map .ofNat) ++
    memberIfAny "question" (d.question.map .ofText) ++
    memberIfAny "column" (d.column.map Column.encode) ++
    memberIfAny "context" (d.context.map .ofText))

structure Draft where
  severity : Option Severity
  code : Option Text
  message : Option Text
  row : Option (Option Nat)
  question : Option (Option Text)
  column : Option (Option Column)
  context : Option (Option Text)

def Draft.blank : Draft := ⟨none, none, none, none, none, none, none⟩

def fields : List (Json.Field Draft) :=
  [field "severity" Draft.severity (fun d x => { d with severity := some x }) Severity.decode false,
    field "code" Draft.code (fun d x => { d with code := some x }) Json.text false,
    field "message" Draft.message (fun d x => { d with message := some x }) Json.text false,
    field "row" Draft.row (fun d x => { d with row := some x }) (Json.optional Json.natural) false,
    field "question" Draft.question (fun d x => { d with question := some x })
      (Json.optional Json.text) false,
    field "column" Draft.column (fun d x => { d with column := some x })
      (Json.optional Column.decode) false,
    field "context" Draft.context (fun d x => { d with context := some x })
      (Json.optional Json.text) false]

def Draft.finish (d : Draft) : Option Diagnostic := do
  return ⟨← d.severity, ← d.code, ← d.message, d.row.join, d.question.join, d.column.join,
    d.context.join⟩

def decode : Decoder Diagnostic := Json.record fields .blank Draft.finish

end Diagnostic

namespace CompiledLogic

def encode (c : CompiledLogic) : Json :=
  .ofMembers (member "row" (.ofNat c.row) ++ memberIfAny "question" (c.question.map .ofText) ++
    member "column" c.column.encode ++ member "expression" c.expression.encode)

structure Draft where
  row : Option Nat
  question : Option (Option Text)
  column : Option Column
  expression : Option Expression

def Draft.blank : Draft := ⟨none, none, none, none⟩

def fields : List (Json.Field Draft) :=
  [field "row" Draft.row (fun d x => { d with row := some x }) Json.natural false,
    field "question" Draft.question (fun d x => { d with question := some x })
      (Json.optional Json.text) false,
    field "column" Draft.column (fun d x => { d with column := some x }) Column.decode false,
    field "expression" Draft.expression (fun d x => { d with expression := some x })
      Expression.decode false]

def Draft.finish (d : Draft) : Option CompiledLogic := do
  return ⟨← d.row, d.question.join, ← d.column, ← d.expression⟩

def decode : Decoder CompiledLogic := Json.record fields .blank Draft.finish

end CompiledLogic

namespace FormSummary

def encode (s : FormSummary) : Json :=
  .ofMembers (memberIfAny "id" (s.id.map .ofText) ++
    member "question_count" (.ofNat s.questionCount) ++
    member "expression_count" (.ofNat s.expressionCount))

structure Draft where
  id : Option (Option Text)
  questionCount : Option Nat
  expressionCount : Option Nat

def Draft.blank : Draft := ⟨none, none, none⟩

def fields : List (Json.Field Draft) :=
  [field "id" Draft.id (fun d x => { d with id := some x }) (Json.optional Json.text) false,
    field "question_count" Draft.questionCount (fun d x => { d with questionCount := some x })
      Json.natural false,
    field "expression_count" Draft.expressionCount (fun d x => { d with expressionCount := some x })
      Json.natural false]

def Draft.finish (d : Draft) : Option FormSummary := do
  return ⟨d.id.join, ← d.questionCount, ← d.expressionCount⟩

def decode : Decoder FormSummary := Json.record fields .blank Draft.finish

end FormSummary

namespace Report

def members (r : Report) : List (Text × Json) :=
  member "valid" (.bool r.valid) ++
    member "errors" (.ofList (r.errors.map Diagnostic.encode)) ++
    member "warnings" (.ofList (r.warnings.map Diagnostic.encode)) ++
    member "metadata" r.summary.encode ++
    member "compiled" (.ofList (r.compiled.map CompiledLogic.encode))

def encode (r : Report) : Json :=
  .ofMembers (r.members ++ member "validation_time_ms" (.ofNat r.milliseconds))

structure Draft where
  valid : Option Bool
  errors : Option (List Diagnostic)
  warnings : Option (List Diagnostic)
  summary : Option FormSummary
  compiled : Option (List CompiledLogic)
  milliseconds : Option Nat

def Draft.blank : Draft := ⟨none, none, none, none, none, none⟩

def fields : List (Json.Field Draft) :=
  [field "valid" Draft.valid (fun d x => { d with valid := some x }) Json.boolean false,
    field "errors" Draft.errors (fun d x => { d with errors := some x })
      (Json.list Diagnostic.decode) false,
    field "warnings" Draft.warnings (fun d x => { d with warnings := some x })
      (Json.list Diagnostic.decode) false,
    field "metadata" Draft.summary (fun d x => { d with summary := some x }) FormSummary.decode false,
    field "compiled" Draft.compiled (fun d x => { d with compiled := some x })
      (Json.list CompiledLogic.decode) false,
    field "validation_time_ms" Draft.milliseconds (fun d x => { d with milliseconds := some x })
      Json.natural false]

def Draft.finish (d : Draft) : Option Report := do
  return ⟨← d.valid, ← d.errors, ← d.warnings, ← d.summary, ← d.compiled, ← d.milliseconds⟩

def decode : Decoder Report := Json.record fields .blank Draft.finish

end Report

end SurveyLogic
