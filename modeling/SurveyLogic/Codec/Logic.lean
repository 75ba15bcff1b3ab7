import SurveyLogic.Expression
import SurveyLogic.Json.Decode
import SurveyLogic.Reference

set_option autoImplicit false

namespace SurveyLogic

open Json (Decoder field member memberIfAny)

def Operator.encode (op : Operator) : Json := .ofText op.name

def Operator.decode : Decoder Operator := Json.oneOf fun name => (Operator.ofName name).toOption

def Join.encode (join : Join) : Json := .ofText join.name

def Join.ofName? (name : Text) : Option Join := [Join.and, Join.or].find? fun j => j.name = name

def Join.decode : Decoder Join := Json.oneOf Join.ofName?

namespace Criterion

def encode (c : Criterion) : Json :=
  .ofMembers (member "name" (.ofText c.name) ++ member "operator" c.operator.encode ++
    memberIfAny "response_value" (c.value.map .ofText))

structure Draft where
  name : Option Text
  operator : Option Operator
  value : Option (Option Text)

def fields : List (Json.Field Draft) :=
  [field "name" Draft.name (fun d x => { d with name := some x }) Json.text false,
    field "operator" Draft.operator (fun d x => { d with operator := some x }) Operator.decode false,
    field "response_value" Draft.value (fun d x => { d with value := some x })
      (Json.optional Json.text) true]

def Draft.finish (d : Draft) : Option Criterion := do
  return ⟨← d.name, ← d.operator, d.value.join⟩

def decode : Decoder Criterion := Json.record fields ⟨none, none, none⟩ Draft.finish

end Criterion

namespace Expression

def encode (e : Expression) : Json :=
  .ofMembers (member "criteria" (.ofList (e.criteria.map Criterion.encode)) ++
    memberIfAny "operator" (e.operator.map Join.encode))

structure Draft where
  criteria : Option (List Criterion)
  operator : Option (Option Join)

def fields : List (Json.Field Draft) :=
  [field "criteria" Draft.criteria (fun d x => { d with criteria := some x })
      (Json.list Criterion.decode) false,
    field "operator" Draft.operator (fun d x => { d with operator := some x })
      (Json.optional Join.decode) true]

def Draft.finish (d : Draft) : Option Expression := do
  return ⟨← d.criteria, d.operator.join⟩

def decode : Decoder Expression := Json.record fields ⟨none, none⟩ Draft.finish

end Expression

namespace ReferenceStyle

def bareTag : Text := "bare".toList

def contextualTag : Text := "contextual".toList

def encode : ReferenceStyle → Json
  | bare => .ofMembers (member "kind" (.ofText bareTag))
  | contextual current =>
    .ofMembers (member "kind" (.ofText contextualTag) ++ member "current" (.ofText current))

-- The kind of a style. What else belongs to the style is kept until the kind is known.
inductive Tag where
  | bare
  | contextual
deriving DecidableEq

def Tag.decode (j : Json) : Except Json.Problem Tag := do
  let name ← Json.text j
  if name = bareTag then return .bare
  else if name = contextualTag then return .contextual
  else throw .shape

def keptDepth : Nat := 126

def keep (j : Json) : Except Json.Problem Unit := Json.Problem.ofFault? (j.kept keptDepth)

def splitMembers (tag : Option Tag) (others : List (Text × Json)) :
    List (Json.Scalar Text × Json) → Except Json.Problem (Option Tag × List (Text × Json))
  | [] => .ok (tag, others.reverse)
  | (key, value) :: members => do
    let name ← key.get
    if name = "kind".toList then
      if tag.isSome then throw .shape
      else splitMembers (some (← Tag.decode value)) others members
    else
      keep value
      splitMembers tag ((name, value) :: others) members

def ofTagAndMembers (tag : Tag) (others : List (Text × Json)) : Except Json.Problem ReferenceStyle :=
  match tag with
  | .bare => .ok .bare
  | .contextual =>
    match others.filter fun m => m.1 = "current".toList with
    | [(_, .string s)] => .contextual <$> s.get
    | _ => .error .shape

def ofTagAndItems (tag : Tag) (items : List Json) : Except Json.Problem ReferenceStyle :=
  match tag, items with
  | .bare, [] => .ok .bare
  | .contextual, [.string s] => .contextual <$> s.get
  | _, _ => .error .shape

def decode : Decoder ReferenceStyle
  | .object members ending => do
    let (tag, others) ← splitMembers none [] members
    ending.check
    match tag with
    | some tag => ofTagAndMembers tag others
    | none => throw .shape
  | .array [] ending => do
    ending.check
    throw .shape
  | .array (head :: items) ending => do
    let tag ← Tag.decode head
    items.forM keep
    ending.check
    ofTagAndItems tag items
  | j => .error (Json.mismatch j)

end ReferenceStyle

end SurveyLogic
