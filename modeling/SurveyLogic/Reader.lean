import SurveyLogic.Expression
import SurveyLogic.Clause.Grammar
import SurveyLogic.Clause.Joins

/-
Reading logic text. A clause is a check for existence, a comparison or a selection, tried in this
order, because an empty literal would also be a comparison. An expression is one clause, or
several with the same join keyword between them.
-/

set_option autoImplicit false

namespace SurveyLogic

inductive LogicError where
  | unrecognizedClause (clause : Text)
  | mixedJoins (first second : Text)
  | emptyExpression
  | table (error : TableError)
deriving DecidableEq

def LogicError.message : LogicError → Text
  | unrecognizedClause clause => "criterion not recognized: '".toList ++ clause ++ "'".toList
  | mixedJoins first second =>
    "mixed join operators not supported: '".toList ++ first ++ "' and '".toList ++ second ++
      "'".toList
  | emptyExpression => "Empty expression".toList
  | table error => error.message

def lookUp {α : Type} (entry : Except TableError α) : Except LogicError α :=
  entry.mapError .table

structure Reader where
  grammar : Grammar
  style : ReferenceStyle
deriving DecidableEq

namespace Reader

def ofStyle (style : ReferenceStyle) : Reader := ⟨style.grammar, style⟩

def boundTo (r : Reader) (current : Text) : Reader :=
  if r.grammar.takesDot then ⟨r.grammar, .contextual current⟩ else r

-- The token of a check for existence: no blanks, upper case, single quotes.
def existenceToken (check : Text) : Text :=
  (Text.upper (check.filter (! isBlank ·))).map fun c => if c = '"' then '\'' else c

def existence? (r : Reader) (clause : Text) : Except LogicError (Option Criterion) :=
  match r.grammar.existence? clause with
  | none => .ok none
  | some found =>
    match r.style.resolve? found.reference with
    | none => .ok none
    | some name => do
      let operator ← lookUp (Operator.ofToken (existenceToken found.check))
      return some (.existence name operator)

def comparison? (r : Reader) (clause : Text) : Except LogicError (Option Criterion) :=
  match r.grammar.comparison? clause with
  | none => .ok none
  | some found =>
    match r.style.resolve? found.reference with
    | none => .ok none
    | some name => do
      let operator ← lookUp (Operator.ofToken found.symbol)
      return some (.withValue name operator (Literal.value found.operand))

def selectionOperator? (found : SelectionMatch) : Option Operator :=
  if found.before.trim = [] ∧ found.after.trim = [] then some .selected
  else if found.before.trim = "not(".toList ∧ found.after.trim = [')'] then some .notSelected
  else none

def selection? (r : Reader) (clause : Text) : Option Criterion := do
  let found ← r.grammar.selection? clause
  let name ← r.style.resolve? found.reference
  let operator ← selectionOperator? found
  return .withValue name operator (Literal.value found.choice)

def clause (r : Reader) (text : Text) : Except LogicError Criterion :=
  if text.trim.isEmpty then .error (.unrecognizedClause text)
  else
    match r.existence? text.trim with
    | .error e => .error e
    | .ok (some c) => .ok c
    | .ok none =>
      match r.comparison? text.trim with
      | .error e => .error e
      | .ok (some c) => .ok c
      | .ok none =>
        match r.selection? text.trim with
        | some c => .ok c
        | none => .error (.unrecognizedClause text.trim)

def sameKeyword (a b : Text) : Bool := a.lower = b.lower

def trimmedExpression (r : Reader) (text : Text) : Except LogicError Expression :=
  match topLevelJoins text with
  | [] => Expression.single <$> r.clause text
  | first :: others =>
    match others.find? (fun join => !sameKeyword join.keyword first.keyword) with
    | some second => .error (.mixedJoins first.keyword second.keyword)
    | none => do
      let operator ← lookUp (Join.ofText first.keyword)
      let criteria ← (clauses text (first :: others)).mapM r.clause
      return .joined criteria operator

def expression (r : Reader) (text : Text) : Except LogicError Expression :=
  if text.trim.isEmpty then .error .emptyExpression else r.trimmedExpression text.trim

end Reader

end SurveyLogic
