import SurveyLogic.Diagnostic
import SurveyLogic.KnownNames

set_option autoImplicit false

namespace SurveyLogic

structure CheckOptions where
  checkReferences : Bool
  checkDuplicateNames : Bool
  verifyRoundTrip : Bool
  failFast : Bool
deriving DecidableEq

def CheckOptions.standard : CheckOptions := ⟨true, true, true, false⟩

structure CompiledLogic where
  row : Nat
  question : Option Text
  column : Column
  expression : Expression
deriving DecidableEq

structure FormSummary where
  id : Option Text
  questionCount : Nat
  expressionCount : Nat
deriving DecidableEq

structure Report where
  valid : Bool
  errors : List Diagnostic
  warnings : List Diagnostic
  summary : FormSummary
  compiled : List CompiledLogic
  -- How long validation took; what is measured nowhere counts as zero.
  milliseconds : Nat
deriving DecidableEq

def Report.expression? (r : Report) (question : Text) (column : Column) : Option Expression :=
  (r.compiled.find? fun c => c.column == column && c.question == some question).map
    CompiledLogic.expression

structure Cell where
  row : Nat
  question : Option Text
  column : Column
  text : Text
deriving DecidableEq

def Row.cells (row : Row) (number : Nat) : List Cell :=
  [Column.relevant, Column.constraint].filterMap fun column =>
    (row.logic column).map fun text => ⟨number, row.questionName, column, text⟩

def cellsFrom (number : Nat) : List Row → List Cell
  | [] => []
  | row :: rows => row.cells number ++ cellsFrom (number + 1) rows

def Form.cells (form : Form) : List Cell := cellsFrom 1 form.survey

inductive Finding where
  | compiled (logic : CompiledLogic)
  | rejected (diagnostic : Diagnostic)
deriving DecidableEq

def Finding.compiled? : Finding → Option CompiledLogic
  | compiled logic => some logic
  | rejected _ => none

def Finding.rejected? : Finding → Option Diagnostic
  | compiled _ => none
  | rejected diagnostic => some diagnostic

def CompileError.code : CompileError → Text
  | logic _ => "E001".toList
  | undefinedField _ _ => "E002".toList
  | roundTripMismatch _ _ => "E003".toList

def CompileError.diagnostic (e : CompileError) : Diagnostic := .error e.code e.message

def duplicateName (row : Nat) (name : Text) : Diagnostic :=
  (Diagnostic.warning "W001".toList
    ("Question name '".toList ++ name ++ "' is not unique".toList)).atRow row (some name)

def duplicatesFrom (number : Nat) (earlier : List Text) : List Row → List Diagnostic
  | [] => []
  | row :: rows =>
    match row.questionName with
    | none => duplicatesFrom (number + 1) earlier rows
    | some name =>
      let later := duplicatesFrom (number + 1) (name :: earlier) rows
      if earlier.count name = 1 then duplicateName number name :: later else later

def Form.duplicates (form : Form) : List Diagnostic := duplicatesFrom 1 [] form.survey

structure Validator where
  relevant : Compiler
  constraint : Compiler
  options : CheckOptions
deriving DecidableEq

namespace Validator

def ofOptions (options : CheckOptions) : Validator := ⟨.relevant, .constraint, options⟩

def compilerFor (v : Validator) (cell : Cell) : Compiler :=
  match cell.column with
  | .relevant => v.relevant
  | .constraint => v.constraint.boundTo (cell.question.getD [])

def check (v : Validator) (known : KnownNames) (cell : Cell) : Except CompileError Expression := do
  let compiler := v.compilerFor cell
  let e ← if v.options.verifyRoundTrip then compiler.verifyRoundTrip cell.text
    else compiler.compile cell.text
  if v.options.checkReferences then known.check e (cell.question.getD [])
  return e

def examine (v : Validator) (known : KnownNames) (cell : Cell) : Finding :=
  match v.check known cell with
  | .ok e => .compiled ⟨cell.row, cell.question, cell.column, e⟩
  | .error e =>
    .rejected ((e.diagnostic.atRow cell.row cell.question).inColumn cell.column cell.text)

def findings (v : Validator) (known : KnownNames) : List Cell → List Finding
  | [] => []
  | cell :: cells =>
    match v.examine known cell with
    | .compiled logic => .compiled logic :: v.findings known cells
    | .rejected diagnostic =>
      .rejected diagnostic :: if v.options.failFast then [] else v.findings known cells

def validate (v : Validator) (form : Form) : Report :=
  let findings := v.findings (.ofForm form) form.cells
  let errors := findings.filterMap Finding.rejected?
  { valid := errors.isEmpty
    errors := errors
    warnings := if v.options.checkDuplicateNames then form.duplicates else []
    summary := ⟨form.id, form.questionNames.length, findings.length⟩
    compiled := findings.filterMap Finding.compiled?
    milliseconds := 0 }

end Validator

end SurveyLogic
