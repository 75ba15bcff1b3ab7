import SurveyLogic.Text.Basic

/-
How an expression writes the question it refers to. Skip logic is bare: every reference is the
name in `${…}`. Validation logic is contextual: a dot stands for the question being validated, and
`${…}` still names any other.
-/

set_option autoImplicit false

namespace SurveyLogic

inductive ReferenceStyle where
  | bare
  | contextual (current : Text)
deriving DecidableEq

namespace ReferenceStyle

def takesDot : ReferenceStyle → Bool
  | bare => false
  | contextual _ => true

def pattern : ReferenceStyle → Text
  | bare => "\\$\\\x7b\\w+\\\x7d".toList
  | contextual _ => "\\$\\\x7b\\w+\\\x7d|\\.".toList

def braced? (raw : Text) : Option Text :=
  (Text.after? ['$', '{'] raw).bind (Text.before? ['}'])

-- The question that a reference names: none for an empty name, and none for the dot where the
-- current question has no name.
def resolve? (style : ReferenceStyle) (raw : Text) : Option Text :=
  let raw := raw.trim
  match braced? raw with
  | some name => if name.isEmpty then none else some name
  | none =>
    match style with
    | bare => none
    | contextual current => if raw = ['.'] ∧ current ≠ [] then some current else none

def braced (name : Text) : Text := ['$', '{'] ++ name ++ ['}']

def render (style : ReferenceStyle) (name : Text) : Text :=
  match style with
  | bare => braced name
  | contextual current => if name = current then ['.'] else braced name

end ReferenceStyle

end SurveyLogic
