import SurveyLogic.Operator

set_option autoImplicit false

namespace SurveyLogic

structure Criterion where
  name : Text
  operator : Operator
  value : Option Text
deriving DecidableEq

namespace Criterion

def existence (name : Text) (operator : Operator) : Criterion := ⟨name, operator, none⟩

def withValue (name : Text) (operator : Operator) (value : Text) : Criterion :=
  ⟨name, operator, some value⟩

def kind (c : Criterion) : Kind := c.operator.kind

def valueOrEmpty (c : Criterion) : Text := c.value.getD []

def hasItsValue (c : Criterion) : Bool := c.operator.takesValue == c.value.isSome

end Criterion

structure Expression where
  criteria : List Criterion
  operator : Option Join
deriving DecidableEq

namespace Expression

def empty : Expression := ⟨[], none⟩

def single (c : Criterion) : Expression := ⟨[c], none⟩

def joined (criteria : List Criterion) (operator : Join) : Expression :=
  ⟨criteria, if 1 < criteria.length then some operator else none⟩

def writtenJoin (e : Expression) : Join := e.operator.getD .and

-- There is a criterion, an operator exactly when there are two, and each value in its place.
def wellFormed (e : Expression) : Bool :=
  let joinFits :=
    match e.criteria with
    | [] => false
    | [_] => e.operator.isNone
    | _ => e.operator.isSome
  joinFits && e.criteria.all Criterion.hasItsValue

def distinct : List Text → List Text
  | [] => []
  | name :: names => name :: (distinct names).filter (· ≠ name)

def references (e : Expression) : List Text := distinct (e.criteria.map Criterion.name)

end Expression

end SurveyLogic
