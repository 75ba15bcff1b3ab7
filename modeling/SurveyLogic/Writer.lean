import SurveyLogic.Expression
import SurveyLogic.Literal
import SurveyLogic.Reference

set_option autoImplicit false

namespace SurveyLogic

structure Writer where
  style : ReferenceStyle
deriving DecidableEq

namespace Writer

def criterion (w : Writer) (c : Criterion) : Text :=
  let reference := w.style.render c.name
  match c.kind with
  | .existence => reference ++ (if c.operator = .notNull then " != ''" else " = ''").toList
  | .comparison => reference ++ [' '] ++ c.operator.token ++ [' '] ++ Literal.render c.valueOrEmpty
  | .multiSelect =>
    let call := "selected(".toList ++ reference ++ ", ".toList ++ Literal.quote c.valueOrEmpty ++
      ")".toList
    if c.operator = .notSelected then "not(".toList ++ call ++ ")".toList else call

def separator (join : Join) : Text := [' '] ++ join.keyword ++ [' ']

def expression (w : Writer) (e : Expression) : Text :=
  (separator e.writtenJoin).intercalate (e.criteria.map w.criterion)

end Writer

end SurveyLogic
