import SurveyLogic.Loading

set_option autoImplicit false

namespace SurveyLogic

inductive EngineError where
  | logic (error : LogicError)
  | form (error : FormError)
  | compiler (error : CompileError)
  | settings (error : SettingsError)
deriving DecidableEq

namespace EngineError

def ofCompile : CompileError → EngineError
  | .logic error => logic error
  | error => compiler error

def message? : EngineError → Option Text
  | logic error => some ("Parser error: ".toList ++ error.message)
  | form error => error.message?.map ("Parser error: ".toList ++ ·)
  | compiler error => some ("Compiler error: ".toList ++ error.message)
  | settings error => error.message?

end EngineError

structure Engine where
  relevant : Compiler
  constraint : Compiler
  validator : Validator
  settings : Settings
deriving DecidableEq

namespace Engine

def ofSettings (settings : Settings) : Engine :=
  ⟨.relevant, .constraint, ⟨.relevant, .constraint, settings.validation⟩, settings⟩

def compileWith (engine : Engine) (compiler : Compiler) (text : Text) :
    Except EngineError Expression :=
  let result :=
    if engine.settings.strictRoundTrip then compiler.verifyRoundTrip text
    else compiler.compile text
  result.mapError .ofCompile

def compileRelevant (engine : Engine) (text : Text) : Except EngineError Expression :=
  engine.compileWith engine.relevant text

def compileConstraint (engine : Engine) (text question : Text) : Except EngineError Expression :=
  engine.compileWith (engine.constraint.boundTo question) text

def compile (engine : Engine) (text : Text) : Except EngineError Expression :=
  engine.compileRelevant text

def compileColumn (engine : Engine) (text : Text) (column : Column) (question : Text) :
    Except EngineError Expression :=
  match column with
  | .relevant => engine.compileRelevant text
  | .constraint => engine.compileConstraint text question

def toText (engine : Engine) (e : Expression) : Text := engine.relevant.toText e

def toConstraintText (engine : Engine) (e : Expression) (question : Text) : Text :=
  (engine.constraint.boundTo question).toText e

def toColumnText (engine : Engine) (e : Expression) (column : Column) (question : Text) : Text :=
  match column with
  | .relevant => engine.toText e
  | .constraint => engine.toConstraintText e question

def normalize (engine : Engine) (text : Text) : Except EngineError Text :=
  (engine.relevant.normalize text).mapError .ofCompile

def validate (engine : Engine) (form : Form) : Report := engine.validator.validate form

def validateText (engine : Engine) (text : Text) : Except EngineError Report :=
  match Form.ofText text with
  | .ok form => .ok (engine.validate form)
  | .error error => .error (.form error)

end Engine

structure EngineBuilder where
  settings : Settings
  file : Option File

namespace EngineBuilder

def new : EngineBuilder := ⟨.standard, none⟩

def withSettings (b : EngineBuilder) (settings : Settings) : EngineBuilder :=
  { b with settings := settings }

def withFile (b : EngineBuilder) (file : File) : EngineBuilder := { b with file := some file }

def withValidation (b : EngineBuilder) (options : CheckOptions) : EngineBuilder :=
  { b with settings.validation := options }

def checkReferences (b : EngineBuilder) (enable : Bool) : EngineBuilder :=
  { b with settings.validation.checkReferences := enable }

def checkDuplicateNames (b : EngineBuilder) (enable : Bool) : EngineBuilder :=
  { b with settings.validation.checkDuplicateNames := enable }

def failFast (b : EngineBuilder) (enable : Bool) : EngineBuilder :=
  { b with settings.validation.failFast := enable }

def strictRoundTrip (b : EngineBuilder) (enable : Bool) : EngineBuilder :=
  { b with settings.strictRoundTrip := enable }

def build (b : EngineBuilder) : Except EngineError Engine :=
  match b.file with
  | none => .ok (.ofSettings b.settings)
  | some file =>
    match Settings.ofFile file with
    | .ok settings => .ok (.ofSettings settings)
    | .error error => .error (.settings error)

end EngineBuilder

end SurveyLogic
