import SurveyLogic.Text.Hex
import SurveyLogic.Yaml.Cursor

set_option autoImplicit false

namespace SurveyLogic.Yaml

def scanAnchor (c : Cursor) : Option (Text × Cursor) :=
  let (name, c) := c.takeWhile isName
  let ends := isBlankOrEnd c.peek || c.sees ['?', ':', ',', ']', '}', '%', '@', backquote].contains
  if name.isEmpty || !ends then none else some (name, c)

def isUriChar (verbatim : Bool) (c : Char) : Bool :=
  isName c ||
    [';', '/', '?', ':', '@', '&', '=', '+', '$', '.', '%', '!', '~', '*', '\'', '(', ')'].contains c ||
    (verbatim && [',', '[', ']'].contains c)

def sequenceWidth? (byte : Nat) : Option Nat :=
  if byte < 0x80 then some 1
  else if byte < 0xC0 then none
  else if byte < 0xE0 then some 2
  else if byte < 0xF0 then some 3
  else if byte < 0xF8 then some 4
  else none

def escapedByte? (c : Cursor) : Option (Nat × Cursor) := do
  guard (c.sees (· = '%'))
  let digits := (c.skip 1).rest.take 2
  guard (digits.length = 2)
  return (← Hex.value? digits, c.skip 3)

def escapedTail (n value : Nat) (c : Cursor) : Option (Nat × Cursor) :=
  match n with
  | 0 => some (value, c)
  | n + 1 => do
    let (byte, c) ← escapedByte? c
    guard (0x80 ≤ byte ∧ byte < 0xC0)
    escapedTail n (value * 0x40 + (byte - 0x80)) c

def escapedChar (c : Cursor) : Option (Char × Cursor) := do
  let (byte, c) ← escapedByte? c
  let width ← sequenceWidth? byte
  let lead := if width = 1 then byte else byte % Nat.pow 2 (7 - width)
  let (value, c) ← escapedTail (width - 1) lead c
  let ch := Char.ofNat value
  return (if ch.toNat = value ∧ ch.utf8Size = width then ch else Char.ofNat 0xFFFD, c)

def uriRun (verbatim : Bool) (fuel : Nat) (c : Cursor) : Option (Text × Cursor) :=
  match fuel, c.peek with
  | 0, _ => none
  | _, none => some ([], c)
  | fuel + 1, some ch =>
    if !isUriChar verbatim ch then some ([], c)
    else do
      let (ch, c) ← if ch = '%' then escapedChar c else some (ch, c.skip 1)
      let (uri, c) ← uriRun verbatim fuel c
      return (ch :: uri, c)

-- A tag URI. What has been taken for a handle may turn out to be its beginning. An escaped null
-- ends what counts of it.
def scanUri (verbatim : Bool) (head : Text) (c : Cursor) : Option (Text × Cursor) := do
  let (uri, c) ← uriRun verbatim (c.rest.length + 1) c
  if head.isEmpty && uri.isEmpty then failure else return ((head.drop 1 ++ uri).takeWhile (·.toNat ≠ 0), c)

def scanHandle (c : Cursor) : Option (Text × Cursor) := do
  guard (c.sees (· = '!'))
  let (name, c) := (c.skip 1).takeWhile isName
  if c.sees (· = '!') then return ('!' :: name ++ ['!'], c.skip 1)
  else return ('!' :: name, c)

def isNamedHandle (handle : Text) : Bool := 1 < handle.length && handle.getLast? = some '!'

def scanTag (inFlow : Bool) (c : Cursor) : Option (Text × Text × Cursor) := do
  let (handle, suffix, c) ←
    if c.peekAt 1 = some '<' then do
      let (uri, c) ← scanUri true [] (c.skip 2)
      guard (c.sees (· = '>'))
      pure ([], uri, c.skip 1)
    else do
      let (handle, c) ← scanHandle c
      if isNamedHandle handle then
        let (suffix, c) ← scanUri false [] c
        pure (handle, suffix, c)
      else
        let (suffix, c) ← scanUri false handle c
        pure (if suffix.isEmpty then ([], ['!'], c) else (['!'], suffix, c))
  if isBlankOrEnd c.peek || (inFlow && c.sees (· = ',')) then return (handle, suffix, c)
  else failure

inductive Directive where
  | version (major minor : Nat)
  | tag (handle start : Text)

def scanVersionNumber (c : Cursor) : Option (Nat × Cursor) :=
  let (digits, c) := c.takeWhile isAsciiDigit
  if digits.isEmpty || 9 < digits.length then none
  else some (digits.foldl (fun n d => 10 * n + (d.toNat - '0'.toNat)) 0, c)

def scanVersion (c : Cursor) : Option (Directive × Cursor) := do
  let (major, c) ← scanVersionNumber (c.skipWhile isBlank)
  guard (c.sees (· = '.'))
  let (minor, c) ← scanVersionNumber (c.skip 1)
  return (.version major minor, c)

def scanTagDirective (c : Cursor) : Option (Directive × Cursor) := do
  let (handle, c) ← scanHandle (c.skipWhile isBlank)
  guard (handle = ['!'] ∨ isNamedHandle handle)
  guard (c.sees isBlank)
  let (start, c) ← scanUri true [] (c.skipWhile isBlank)
  guard (isBlankOrEnd c.peek)
  return (.tag handle start, c)

def scanDirective (c : Cursor) : Option (Directive × Cursor) := do
  let (name, c) := c.takeWhile isName
  guard (isBlankOrEnd c.peek)
  let (directive, c) ←
    if name = "YAML".toList then scanVersion c
    else if name = "TAG".toList then scanTagDirective c
    else failure
  return (directive, ← c.skipRestOfLine)

end SurveyLogic.Yaml
