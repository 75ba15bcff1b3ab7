import SurveyLogic.Text.Basic

/-
A JSON value as it is met in a text, read from left to right. A text with a fault still has a
value: it holds what stands before the fault, and the fault in its place. So whoever decodes a
value meets a fault of the text and a wrong shape in the order in which they stand in the text.
-/

set_option autoImplicit false

namespace SurveyLogic

inductive Json.Fault where
  | eof
  | malformed
deriving DecidableEq

-- A string or a number of the text. Passing over it is less strict than reading it.
structure Json.Scalar (α : Type) where
  read : Except Json.Fault α
  passed : Option Json.Fault

inductive Json.Number where
  | natural (n : Nat)
  | other
deriving DecidableEq

inductive Json.Ending where
  | closed
  | broken (afterComma : Bool) (fault : Json.Fault)
deriving DecidableEq

inductive Json where
  | null
  | bool (b : Bool)
  | number (n : Json.Scalar Json.Number)
  | string (s : Json.Scalar Text)
  | array (items : List Json) (ending : Json.Ending)
  | object (members : List (Json.Scalar Text × Json)) (ending : Json.Ending)
  -- The beginning of `null`, or else of `true` or `false`, that goes on as no word does.
  | word (isNull : Bool) (fault : Json.Fault)
  -- No value starts here.
  | broken (fault : Json.Fault)

namespace Json

def Scalar.sound {α : Type} (a : α) : Scalar α := ⟨.ok a, none⟩

def ofText (t : Text) : Json := string (.sound t)

def ofNat (n : Nat) : Json := number (.sound (.natural n))

def ofList (items : List Json) : Json := array items .closed

def ofMembers (members : List (Text × Json)) : Json :=
  object (members.map fun (key, value) => (.sound key, value)) .closed

def Ending.fault : Ending → Option Fault
  | closed => none
  | broken _ fault => some fault

mutual
def passed : Json → Option Fault
  | null => none
  | bool _ => none
  | number n => n.passed
  | string s => s.passed
  | array items ending => (passedItems items).or ending.fault
  | object members ending => (passedMembers members).or ending.fault
  | word _ fault => some fault
  | broken fault => some fault

def passedItems : List Json → Option Fault
  | [] => none
  | item :: items => (passed item).or (passedItems items)

def passedMembers : List (Scalar Text × Json) → Option Fault
  | [] => none
  | (key, value) :: members => (key.passed.or (passed value)).or (passedMembers members)
end

def Scalar.fault? {α : Type} (s : Scalar α) : Option Fault :=
  match s.read with
  | .ok _ => none
  | .error fault => some fault

mutual
-- The first fault met when a value is kept for later, with at most `depth` arrays and objects
-- inside each other.
def kept (depth : Nat) : Json → Option Fault
  | null => none
  | bool _ => none
  | number n => n.fault?
  | string s => s.fault?
  | array items ending =>
    match depth with
    | 0 => some .malformed
    | depth + 1 => (keptItems depth items).or ending.fault
  | object members ending =>
    match depth with
    | 0 => some .malformed
    | depth + 1 => (keptMembers depth members).or ending.fault
  | word _ fault => some fault
  | broken fault => some fault

def keptItems (depth : Nat) : List Json → Option Fault
  | [] => none
  | item :: items => (kept depth item).or (keptItems depth items)

def keptMembers (depth : Nat) : List (Scalar Text × Json) → Option Fault
  | [] => none
  | (key, value) :: members => (key.fault?.or (kept depth value)).or (keptMembers depth members)
end

end Json

end SurveyLogic
