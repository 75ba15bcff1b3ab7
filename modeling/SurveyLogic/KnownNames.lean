import SurveyLogic.Compiler
import SurveyLogic.Form

set_option autoImplicit false

namespace SurveyLogic

structure KnownNames where
  names : List Text

namespace KnownNames

def ofForm (form : Form) : KnownNames := ⟨form.questionNames⟩

def isKnown (known : KnownNames) (name : Text) : Bool := name ∈ known.names

def unknown (known : KnownNames) (e : Expression) : List Text :=
  e.references.filter fun name => !known.isKnown name

def check (known : KnownNames) (e : Expression) (question : Text) : Except CompileError Unit :=
  match known.unknown e with
  | [] => .ok ()
  | field :: _ => .error (.undefinedField field question)

end KnownNames

end SurveyLogic
