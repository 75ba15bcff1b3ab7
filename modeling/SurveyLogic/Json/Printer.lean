import SurveyLogic.Json.Basic
import SurveyLogic.Text.Hex

set_option autoImplicit false

namespace SurveyLogic.Json

def escapeChar (c : Char) : Text :=
  if c = '"' then ['\\', '"']
  else if c = '\\' then ['\\', '\\']
  else if c.toNat = 8 then ['\\', 'b']
  else if c.toNat = 9 then ['\\', 't']
  else if c.toNat = 10 then ['\\', 'n']
  else if c.toNat = 12 then ['\\', 'f']
  else if c.toNat = 13 then ['\\', 'r']
  else if c.toNat < 0x20 then ['\\', 'u', '0', '0', Hex.digit (c.toNat / 16), Hex.digit (c.toNat % 16)]
  else [c]

def quoteText (t : Text) : Text := ['"'] ++ t.flatMap escapeChar ++ ['"']

def printNumber (n : Scalar Number) : Text :=
  match n.read with
  | .ok (.natural n) => Text.ofNat n
  | _ => []

def printString (s : Scalar Text) : Text :=
  match s.read with
  | .ok t => quoteText t
  | .error _ => []

mutual
def print : Json → Text
  | null => "null".toList
  | bool true => "true".toList
  | bool false => "false".toList
  | number n => printNumber n
  | string s => printString s
  | array items _ => ['['] ++ printItems items ++ [']']
  | object members _ => ['{'] ++ printMembers members ++ ['}']
  | word _ _ => []
  | broken _ => []

def printItems : List Json → Text
  | [] => []
  | [item] => print item
  | item :: items => print item ++ [','] ++ printItems items

def printMembers : List (Scalar Text × Json) → Text
  | [] => []
  | [(key, value)] => printString key ++ [':'] ++ print value
  | (key, value) :: members =>
    printString key ++ [':'] ++ print value ++ [','] ++ printMembers members
end

end SurveyLogic.Json
