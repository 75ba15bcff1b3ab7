import SurveyLogic.Json.Basic
import SurveyLogic.Text.Word

/-
Numbers in JSON text. One that is no natural number below `2 ^ 64` has to lie in the range of
double precision: its leading digits and its power of ten are rounded to 53 bits each, and the
product may not round to infinity.
-/

set_option autoImplicit false

namespace SurveyLogic.Json

structure Numeral where
  negative : Bool
  whole : Text
  fraction : Option Text
  exponent : Option Int

namespace Numeral

def digitValue (c : Char) : Nat := c.toNat - '0'.toNat

def natOf (digits : Text) : Nat := digits.foldl (fun n c => 10 * n + digitValue c) 0

def digits? (t : Text) : Except Fault (Text × Text) :=
  match t.takeWhile isAsciiDigit, t.dropWhile isAsciiDigit with
  | [], [] => .error .eof
  | [], _ => .error .malformed
  | digits, rest => .ok (digits, rest)

def whole? (t : Text) : Except Fault (Text × Text) := do
  let (digits, rest) ← digits? t
  match digits with
  | '0' :: _ :: _ => throw .malformed
  | _ => return (digits, rest)

def fraction? (t : Text) : Except Fault (Option Text × Text) :=
  match t with
  | '.' :: rest => do
    let (digits, rest) ← digits? rest
    return (some digits, rest)
  | _ => .ok (none, t)

def exponentSign : Text → Int × Text
  | '+' :: rest => (1, rest)
  | '-' :: rest => (-1, rest)
  | t => (1, t)

def exponent? (t : Text) : Except Fault (Option Int × Text) :=
  match t with
  | [] => .ok (none, t)
  | c :: rest =>
    if c = 'e' ∨ c = 'E' then do
      let (sign, rest) := exponentSign rest
      let (digits, rest) ← digits? rest
      return (some (sign * natOf digits), rest)
    else .ok (none, t)

def sign : Text → Bool × Text
  | '-' :: rest => (true, rest)
  | t => (false, t)

def scan (t : Text) : Except Fault (Numeral × Text) := do
  let (negative, rest) := sign t
  let (whole, rest) ← whole? rest
  let (fraction, rest) ← fraction? rest
  let (exponent, rest) ← exponent? rest
  return (⟨negative, whole, fraction, exponent⟩, rest)

def wordLimit : Nat := Nat.pow 2 64

def accumulate (n : Nat) : Text → Nat × Nat
  | [] => (n, 0)
  | c :: digits =>
    let next := 10 * n + digitValue c
    if next < wordLimit then accumulate next digits else (n, digits.length + 1)

def scientific (x : Numeral) : Nat × Int :=
  let (n, left) := accumulate 0 x.whole
  let fraction := x.fraction.getD []
  let (n, unused) := accumulate n fraction
  (n, (left : Int) - ((fraction.length - unused : Nat) : Int) + x.exponent.getD 0)

-- The nearest number of 53 significant bits, ties to even.
def nearest (n : Nat) : Nat :=
  let unit := Nat.pow 2 ((n.log2 + 1) - 53)
  let down := n / unit
  let rest := n % unit
  if 2 * rest > unit ∨ (2 * rest = unit ∧ down % 2 = 1) then (down + 1) * unit else down * unit

-- Half a unit above the greatest finite double, where rounding goes to infinity.
def overflowBound : Nat := Nat.pow 2 1024 - Nat.pow 2 970

def inRange (x : Numeral) : Bool :=
  match x.scientific with
  | (0, _) => true
  | (_, .negSucc _) => true
  | (n, .ofNat e) => e ≤ 308 && nearest n * nearest (Nat.pow 10 e) < overflowBound

def isNatural (x : Numeral) : Bool :=
  !x.negative && x.fraction.isNone && x.exponent.isNone && natOf x.whole < wordLimit

def value (x : Numeral) : Except Fault Number :=
  if x.isNatural then .ok (.natural (natOf x.whole))
  else if x.inRange then .ok .other
  else .error .malformed

def read (t : Text) : Json × Option Text :=
  match scan t with
  | .ok (x, rest) => (number ⟨x.value, none⟩, some rest)
  | .error fault => (number ⟨.error fault, some .malformed⟩, none)

end Numeral

end SurveyLogic.Json
