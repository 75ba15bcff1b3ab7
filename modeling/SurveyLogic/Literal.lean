import SurveyLogic.Text.Word

/-
The literals on the right of an operator: dates in `date('…')`, quoted text, numbers and bare
words. Reading accepts the decimal digits of every script; writing uses the date and number forms
for ASCII digits alone, and quotes the rest.
-/

set_option autoImplicit false

namespace SurveyLogic

namespace Literal

def isDate (digit : Char → Bool) : Text → Bool
  | [a, b, c, d, '-', e, f, '-', g, h] => [a, b, c, d, e, f, g, h].all digit
  | _ => false

def nonemptyAll (p : Char → Bool) (t : Text) : Bool := !t.isEmpty && t.all p

def unsigned (t : Text) : Text :=
  match t with
  | '-' :: rest => rest
  | _ => t

def isNumber (digit : Char → Bool) (t : Text) : Bool :=
  let magnitude := unsigned t
  nonemptyAll digit (magnitude.takeWhile (· ≠ '.')) &&
    match magnitude.dropWhile (· ≠ '.') with
    | [] => true
    | _ :: fraction => nonemptyAll digit fraction

def isQuotedBy (quote : Char) : Text → Bool
  | [] => false
  | c :: rest => c = quote && rest.dropWhile (· ≠ quote) = [quote]

def isQuoted (t : Text) : Bool := isQuotedBy '\'' t || isQuotedBy '"' t

def dateOpen : Text := "date(".toList

def isDateCall (t : Text) : Bool :=
  match (Text.after? dateOpen t).bind (Text.before? [')']) with
  | none => false
  | some inner =>
    isQuotedBy '\'' inner.trim && isDate isDigit (inner.trim.drop 1).dropLast

def isWordRun (t : Text) : Bool :=
  t.all (fun c => isWord c || isBlank c) && t.getLast?.any isWord

def isOperand (t : Text) : Bool :=
  isDateCall t || isQuoted t || isNumber isDigit t || isWordRun t

def unquoteWith (quote : Char) (t : Text) : Option Text :=
  (Text.after? [quote] t).bind (Text.before? [quote])

def unquote (t : Text) : Text :=
  ((unquoteWith '\'' t).or (unquoteWith '"' t)).getD t

def value (raw : Text) : Text :=
  let raw := raw.trim
  match (Text.after? dateOpen raw).bind (Text.before? [')']) with
  | some inner => unquote inner.trim
  | none => unquote raw

def quote (value : Text) : Text :=
  if '\'' ∈ value then ['"'] ++ value ++ ['"'] else ['\''] ++ value ++ ['\'']

def render (value : Text) : Text :=
  if isDate isAsciiDigit value then dateOpen ++ ['\''] ++ value ++ ['\''] ++ [')']
  else if isNumber isAsciiDigit value then value
  else quote value

end Literal

end SurveyLogic
