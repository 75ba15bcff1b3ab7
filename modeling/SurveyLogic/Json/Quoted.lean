import SurveyLogic.Json.Basic
import SurveyLogic.Text.Hex

set_option autoImplicit false

namespace SurveyLogic.Json.Quoted

-- Four hexadecimal digits. They are one fault when the text has fewer than four bytes left, and
-- another when they are not digits.
def hex4 (t : Text) : Except Fault (Nat × Text) :=
  let digits := t.take 4
  if Text.utf8Length digits < 4 then .error .eof
  else match Hex.value? digits with
    | some n => if digits.length = 4 then .ok (n, t.drop 4) else .error .malformed
    | none => .error .malformed

def isHighSurrogate (n : Nat) : Bool := 0xD800 ≤ n && n ≤ 0xDBFF

def isLowSurrogate (n : Nat) : Bool := 0xDC00 ≤ n && n ≤ 0xDFFF

def lowSurrogate (t : Text) : Except Fault (Nat × Text) :=
  match t with
  | [] => .error .eof
  | ['\\'] => .error .eof
  | '\\' :: 'u' :: rest => do
    let (n, rest) ← hex4 rest
    if isLowSurrogate n then return (n, rest) else throw .malformed
  | _ => .error .malformed

def unicodeEscape (t : Text) : Except Fault (Char × Text) := do
  let (n, rest) ← hex4 t
  if isLowSurrogate n then throw .malformed
  else if isHighSurrogate n then
    let (low, rest) ← lowSurrogate rest
    return (Char.ofNat (0x10000 + (n - 0xD800) * 0x400 + (low - 0xDC00)), rest)
  else return (Char.ofNat n, rest)

def simpleEscape? (c : Char) : Option Char :=
  match c with
  | '"' => some '"'
  | '\\' => some '\\'
  | '/' => some '/'
  | 'b' => some (Char.ofNat 8)
  | 'f' => some (Char.ofNat 12)
  | 'n' => some '\n'
  | 'r' => some '\r'
  | 't' => some '\t'
  | _ => none

def escape (t : Text) : Except Fault (Char × Text) :=
  match t with
  | [] => .error .eof
  | 'u' :: rest => unicodeEscape rest
  | c :: rest =>
    match simpleEscape? c with
    | some decoded => .ok (decoded, rest)
    | none => .error .malformed

def passEscape (t : Text) : Except Fault Text :=
  match t with
  | [] => .error .eof
  | 'u' :: rest => (hex4 rest).map Prod.snd
  | c :: rest => if (simpleEscape? c).isSome then .ok rest else .error .malformed

def isControl (c : Char) : Bool := c.toNat < 0x20

def decode (fuel : Nat) (t : Text) : Except Fault (Text × Text) :=
  match fuel, t with
  | 0, _ => .error .eof
  | _, [] => .error .eof
  | fuel + 1, c :: t =>
    if c = '"' then .ok ([], t)
    else if c = '\\' then do
      let (decoded, rest) ← escape t
      let (text, rest) ← decode fuel rest
      return (decoded :: text, rest)
    else if isControl c then .error .malformed
    else do
      let (text, rest) ← decode fuel t
      return (c :: text, rest)

def pass (fuel : Nat) (t : Text) : Except Fault Text :=
  match fuel, t with
  | 0, _ => .error .eof
  | _, [] => .error .eof
  | fuel + 1, c :: t =>
    if c = '"' then .ok t
    else if c = '\\' then do pass fuel (← passEscape t)
    else if isControl c then .error .malformed
    else pass fuel t

def scan (t : Text) : Scalar Text × Option Text :=
  let read := (decode (t.length + 1) t).map Prod.fst
  match pass (t.length + 1) t with
  | .ok rest => (⟨read, none⟩, some rest)
  | .error fault => (⟨read, some fault⟩, none)

end SurveyLogic.Json.Quoted
