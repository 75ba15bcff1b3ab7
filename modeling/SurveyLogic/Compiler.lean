import SurveyLogic.Reader
import SurveyLogic.Writer

set_option autoImplicit false

namespace SurveyLogic

inductive CompileError where
  | logic (error : LogicError)
  | roundTripMismatch (text written : Text)
  | undefinedField (field question : Text)
deriving DecidableEq

def CompileError.message : CompileError → Text
  | logic error => error.message
  | roundTripMismatch text written =>
    "Round trip changed expression: '".toList ++ text ++ "' was written as '".toList ++
      written ++ "'".toList
  | undefinedField field question =>
    "Undefined field '".toList ++ field ++ "' referenced by '".toList ++ question ++ "'".toList

structure Compiler where
  reader : Reader
  writer : Writer
deriving DecidableEq

namespace Compiler

def ofStyle (style : ReferenceStyle) : Compiler := ⟨.ofStyle style, ⟨style⟩⟩

def relevant : Compiler := ofStyle .bare

def constraint : Compiler := ofStyle (.contextual [])

def boundTo (c : Compiler) (current : Text) : Compiler :=
  let reader := c.reader.boundTo current
  ⟨reader, ⟨reader.style⟩⟩

def style (c : Compiler) : ReferenceStyle := c.reader.style

def compile (c : Compiler) (text : Text) : Except CompileError Expression :=
  (c.reader.expression text).mapError .logic

def toText (c : Compiler) (e : Expression) : Text := c.writer.expression e

def normalize (c : Compiler) (text : Text) : Except CompileError Text :=
  c.toText <$> c.compile text

def verifyRoundTrip (c : Compiler) (text : Text) : Except CompileError Expression := do
  let e ← c.compile text
  let again ← c.compile (c.toText e)
  if again = e then return e else throw (.roundTripMismatch text (c.toText e))

end Compiler

end SurveyLogic
