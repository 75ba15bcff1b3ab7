import SurveyLogic.Json.Document

set_option autoImplicit false

namespace SurveyLogic.Json

inductive Problem where
  | unreadable (fault : Fault)
  | shape
deriving DecidableEq

abbrev Decoder (α : Type) := Json → Except Problem α

def Problem.ofFault? : Option Fault → Except Problem Unit
  | some fault => .error (.unreadable fault)
  | none => .ok ()

def Scalar.get {α : Type} (s : Scalar α) : Except Problem α := s.read.mapError .unreadable

def mismatch : Json → Problem
  | number n => (n.fault?.map .unreadable).getD .shape
  | string s => (s.fault?.map .unreadable).getD .shape
  | word _ fault => .unreadable fault
  | broken fault => .unreadable fault
  | _ => .shape

def text : Decoder Text
  | string s => s.get
  | j => .error (mismatch j)

def boolean : Decoder Bool
  | bool b => .ok b
  | j => .error (mismatch j)

def natural : Decoder Nat
  | number n => do
    match ← n.get with
    | .natural n => return n
    | .other => throw .shape
  | j => .error (mismatch j)

def optional {α : Type} (decode : Decoder α) : Decoder (Option α)
  | null => .ok none
  | word true fault => .error (.unreadable fault)
  | j => some <$> decode j

def Ending.check (ending : Ending) : Except Problem Unit := Problem.ofFault? ending.fault

def Ending.checkLast : Ending → Except Problem Unit
  | .closed => .ok ()
  | .broken true _ => .error (.unreadable .malformed)
  | .broken false fault => .error (.unreadable fault)

def list {α : Type} (decode : Decoder α) : Decoder (List α)
  | array items ending => do
    let values ← items.mapM decode
    ending.check
    return values
  | j => .error (mismatch j)

-- A name for one of several values: a string, or an object with that one key and `null`. Where
-- neither starts the text is at fault, whatever value stands there.
def oneOf {α : Type} (ofName? : Text → Option α) : Decoder α
  | string s => do
    match ofName? (← s.get) with
    | some a => return a
    | none => throw .shape
  | object [] .closed => .error (.unreadable .malformed)
  | object [] (.broken _ fault) => .error (.unreadable fault)
  | object ((key, value) :: others) ending => do
    match ofName? (← key.get) with
    | none => throw .shape
    | some a =>
      match value with
      | null => if others.isEmpty then ending.checkLast else throw (.unreadable .malformed)
      | _ => throw (mismatch value)
      return a
  | broken fault => .error (.unreadable fault)
  | _ => .error (.unreadable .malformed)

-- A field of a record that is being read into a draft. Where the record is an array it may leave
-- out the field, with those after it, only if `mayEnd` holds.
structure Field (δ : Type) where
  key : Text
  filled : δ → Bool
  fill : δ → Decoder δ
  mayEnd : Bool

def field {δ α : Type} (key : String) (get : δ → Option α) (set : δ → α → δ) (decode : Decoder α)
    (mayEnd : Bool) : Field δ :=
  ⟨key.toList, fun draft => (get draft).isSome, fun draft j => set draft <$> decode j, mayEnd⟩

def fillMembers {δ : Type} (fields : List (Field δ)) (draft : δ) :
    List (Scalar Text × Json) → Except Problem δ
  | [] => .ok draft
  | (key, value) :: members => do
    let name ← key.get
    match fields.find? (fun f => f.key = name) with
    | none =>
      Problem.ofFault? value.passed
      fillMembers fields draft members
    | some f =>
      if f.filled draft then throw .shape
      else fillMembers fields (← f.fill draft value) members

def fillItems {δ : Type} (ending : Ending) (draft : δ) :
    List (Field δ) → List Json → Except Problem δ
  | [], [] => do
    ending.checkLast
    return draft
  | [], _ :: _ => .error (.unreadable .malformed)
  | f :: fields, [] => do
    ending.check
    if f.mayEnd then fillItems ending draft fields [] else throw .shape
  | f :: fields, item :: items => do fillItems ending (← f.fill draft item) fields items

def finished {δ α : Type} (finish : δ → Option α) (draft : δ) : Except Problem α :=
  match finish draft with
  | some a => .ok a
  | none => .error .shape

def record {δ α : Type} (fields : List (Field δ)) (blank : δ) (finish : δ → Option α) : Decoder α
  | object members ending => do
    let draft ← fillMembers fields blank members
    ending.check
    finished finish draft
  | array items ending => do
    let draft ← fillItems ending blank fields items
    finished finish draft
  | j => .error (mismatch j)

def decodeText {α : Type} (decode : Decoder α) (t : Text) : Except Problem α := do
  let document := Document.ofText t
  let a ← decode document.value
  if document.trailing then throw (.unreadable .malformed) else return a

def memberIfAny (key : String) (value : Option Json) : List (Text × Json) :=
  (value.map fun j => (key.toList, j)).toList

def member (key : String) (value : Json) : List (Text × Json) := [(key.toList, value)]

end SurveyLogic.Json
