import SurveyLogic.Form
import SurveyLogic.Json.Decode

set_option autoImplicit false

namespace SurveyLogic

open Json (Decoder field member memberIfAny)

namespace Column

def encode (column : Column) : Json := .ofText column.name

def ofName? (name : Text) : Option Column := [relevant, constraint].find? fun c => c.name = name

def decode : Decoder Column := Json.oneOf ofName?

end Column

namespace Row

def encode (row : Row) : Json :=
  .ofMembers (member "type" (.ofText row.type) ++ memberIfAny "name" (row.name.map .ofText) ++
    memberIfAny "label" (row.label.map .ofText) ++
    memberIfAny "relevant" (row.relevant.map .ofText) ++
    memberIfAny "constraint" (row.constraint.map .ofText))

structure Draft where
  type : Option Text
  name : Option (Option Text)
  label : Option (Option Text)
  relevant : Option (Option Text)
  constraint : Option (Option Text)

def Draft.blank : Draft := ⟨none, none, none, none, none⟩

def fields : List (Json.Field Draft) :=
  let optionalText := Json.optional Json.text
  [field "type" Draft.type (fun d x => { d with type := some x }) Json.text true,
    field "name" Draft.name (fun d x => { d with name := some x }) optionalText true,
    field "label" Draft.label (fun d x => { d with label := some x }) optionalText true,
    field "relevant" Draft.relevant (fun d x => { d with relevant := some x }) optionalText true,
    field "constraint" Draft.constraint (fun d x => { d with constraint := some x }) optionalText true]

def Draft.finish (d : Draft) : Row :=
  ⟨d.type.getD [], d.name.join, d.label.join, d.relevant.join, d.constraint.join⟩

def decode : Decoder Row := Json.record fields .blank (some ∘ Draft.finish)

end Row

namespace Form

def encode (form : Form) : Json :=
  .ofMembers (memberIfAny "id" (form.id.map .ofText) ++
    member "survey" (.ofList (form.survey.map Row.encode)))

structure Draft where
  id : Option (Option Text)
  survey : Option (List Row)

def fields : List (Json.Field Draft) :=
  [field "id" Draft.id (fun d x => { d with id := some x }) (Json.optional Json.text) true,
    field "survey" Draft.survey (fun d x => { d with survey := some x }) (Json.list Row.decode) true]

def Draft.finish (d : Draft) : Form := ⟨d.id.join, d.survey.getD []⟩

def decode : Decoder Form := Json.record fields ⟨none, none⟩ (some ∘ Draft.finish)

end Form

end SurveyLogic
