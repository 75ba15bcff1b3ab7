import SurveyLogic.Engine

set_option autoImplicit false

namespace SurveyLogic

structure Editor where
  engine : Engine
  expression : Expression
  form : Form

namespace Editor

inductive Step where
  | configure (settings : Settings)
  | compile (text : Text)
  | compileColumn (text : Text) (column : Column) (question : Text)
  | push (criterion : Criterion)
  | insert (index : Nat) (criterion : Criterion)
  | replace (index : Nat) (criterion : Criterion)
  | remove (index : Nat)
  | clear
  | setOperator (operator : Option Join)
  | rejoin (operator : Join)
  | reload
  | normalize (text : Text)
  | constraintText (question : Text)
  | loadForm (text : Text)
  | addRow (row : Row)
  | dropRow (index : Nat)
  | renameRow (index : Nat) (name : Option Text)
  | openCell (index : Nat) (column : Column)
  | saveCell (index : Nat) (column : Column)
  | validate

inductive Outcome where
  | nothing
  | criterion (c : Criterion)
  | unchanged (same : Bool)
  | text (t : Text)
  | names (names : List Text)
  | row (row : Row)
  | report (report : Report)

inductive Failure where
  | engine (error : EngineError)
  | form (error : FormError)
  | noSuchIndex
  | noSuchRow
  | noLogic
deriving DecidableEq

abbrev Result := Except Failure (Editor × Outcome)

def start (settings : Settings) (form : Form) : Editor := ⟨.ofSettings settings, .empty, form⟩

def setExpression (s : Editor) (compiled : Except EngineError Expression) : Result :=
  match compiled with
  | .ok e => .ok ({ s with expression := e }, .nothing)
  | .error error => .error (.engine error)

def setCriteria (s : Editor) (criteria : List Criterion) : Editor :=
  { s with expression.criteria := criteria }

def setSurvey (s : Editor) (survey : List Row) : Editor := { s with form.survey := survey }

def rowAt (s : Editor) (index : Nat) : Except Failure Row :=
  match s.form.survey[index]? with
  | some row => .ok row
  | none => .error .noSuchRow

def criterionAt (s : Editor) (index : Nat) : Except Failure Criterion :=
  match s.expression.criteria[index]? with
  | some c => .ok c
  | none => .error .noSuchIndex

def reload (s : Editor) : Result :=
  match s.engine.compile (s.engine.toText s.expression) with
  | .ok e => .ok ({ s with expression := e }, .unchanged (e = s.expression))
  | .error error => .error (.engine error)

def openCell (s : Editor) (index : Nat) (column : Column) : Result := do
  let row ← s.rowAt index
  match row.logic column with
  | none => throw .noLogic
  | some text =>
    s.setExpression (s.engine.compileColumn text column (row.questionName.getD []))

def saveCell (s : Editor) (index : Nat) (column : Column) : Result := do
  let row ← s.rowAt index
  let row := row.setLogic column
    (s.engine.toColumnText s.expression column (row.questionName.getD []))
  return (s.setSurvey (s.form.survey.set index row), .row row)

def step (s : Editor) : Step → Result
  | .configure settings => .ok ({ s with engine := .ofSettings settings }, .nothing)
  | .compile text => s.setExpression (s.engine.compile text)
  | .compileColumn text column question =>
    s.setExpression (s.engine.compileColumn text column question)
  | .push c => .ok (s.setCriteria (s.expression.criteria ++ [c]), .nothing)
  | .insert index c =>
    if index ≤ s.expression.criteria.length then
      .ok (s.setCriteria (s.expression.criteria.insertIdx index c), .nothing)
    else .error .noSuchIndex
  | .replace index c => do
    let _ ← s.criterionAt index
    return (s.setCriteria (s.expression.criteria.set index c), .nothing)
  | .remove index => do
    let c ← s.criterionAt index
    return (s.setCriteria (s.expression.criteria.eraseIdx index), .criterion c)
  | .clear => .ok (s.setCriteria [], .nothing)
  | .setOperator operator => .ok ({ s with expression.operator := operator }, .nothing)
  | .rejoin operator =>
    .ok ({ s with expression := .joined s.expression.criteria operator }, .nothing)
  | .reload => s.reload
  | .normalize text =>
    match s.engine.normalize text with
    | .ok t => .ok (s, .text t)
    | .error error => .error (.engine error)
  | .constraintText question => .ok (s, .text (s.engine.toConstraintText s.expression question))
  | .loadForm text =>
    match Form.ofText text with
    | .ok form => .ok ({ s with form := form }, .nothing)
    | .error error => .error (.form error)
  | .addRow row =>
    let s := s.setSurvey (s.form.survey ++ [row])
    .ok (s, .names s.form.questionNames)
  | .dropRow index => do
    let row ← s.rowAt index
    return (s.setSurvey (s.form.survey.eraseIdx index), .row row)
  | .renameRow index name => do
    let row ← s.rowAt index
    let s := s.setSurvey (s.form.survey.set index { row with name := name })
    return (s, .names s.form.questionNames)
  | .openCell index column => s.openCell index column
  | .saveCell index column => s.saveCell index column
  | .validate => .ok (s, .report (s.engine.validate s.form))

end Editor

end SurveyLogic
