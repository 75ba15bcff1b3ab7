import SurveyLogic.Text.Word

set_option autoImplicit false

namespace SurveyLogic.Yaml

def isBreak (c : Char) : Bool :=
  c = '\n' || c = '\r' || c.toNat = 0x85 || c.toNat = 0x2028 || c.toNat = 0x2029

def isTab (c : Char) : Bool := c = '\t'

def isBlank (c : Char) : Bool := c = ' ' || isTab c

def backquote : Char := Char.ofNat 0x60

-- The end of the text ends whatever a blank or a break ends.
def isBlankOrEnd : Option Char → Bool
  | none => true
  | some c => isBlank c || isBreak c

def isName (c : Char) : Bool := c.isAlphanum || c = '_' || c = '-'

def isPrintable (c : Char) : Bool :=
  let n := c.toNat
  n = 0x9 || n = 0xA || n = 0xD || (0x20 ≤ n && n ≤ 0x7E) || n = 0x85 ||
    (0xA0 ≤ n && n ≤ 0xFFFD) || 0x10000 ≤ n

structure Cursor where
  rest : Text
  bytes : Nat
  line : Nat
  column : Nat

namespace Cursor

def start (t : Text) : Cursor := ⟨t, 0, 0, 0⟩

def peek (c : Cursor) : Option Char := c.rest.head?

def peekAt (c : Cursor) (n : Nat) : Option Char := c.rest[n]?

def atEnd (c : Cursor) : Bool := c.rest.isEmpty

def sees (c : Cursor) (p : Char → Bool) : Bool := c.peek.any p

def skip (c : Cursor) (n : Nat) : Cursor :=
  ⟨c.rest.drop n, c.bytes + Text.utf8Length (c.rest.take n), c.line, c.column + n⟩

def skipWhile (c : Cursor) (p : Char → Bool) : Cursor := c.skip (c.rest.takeWhile p).length

def takeWhile (c : Cursor) (p : Char → Bool) : Text × Cursor :=
  let taken := c.rest.takeWhile p
  (taken, c.skip taken.length)

def takeBreak (c : Cursor) : Text × Cursor :=
  match c.rest with
  | '\r' :: '\n' :: rest => (['\n'], ⟨rest, c.bytes + 2, c.line + 1, 0⟩)
  | b :: rest =>
    if isBreak b then
      (if b.toNat = 0x2028 ∨ b.toNat = 0x2029 then [b] else ['\n'],
        ⟨rest, c.bytes + b.utf8Size, c.line + 1, 0⟩)
    else ([], c)
  | [] => ([], c)

def skipBreak (c : Cursor) : Cursor := c.takeBreak.2

def skipRestOfLine (c : Cursor) : Option Cursor :=
  let c := c.skipWhile isBlank
  let c := if c.sees (· = '#') then c.skipWhile (! isBreak ·) else c
  if c.atEnd || c.sees isBreak then some c.skipBreak else none

def atMarker (c : Cursor) (mark : Char) : Bool :=
  c.column = 0 && c.rest.take 3 = [mark, mark, mark] && isBlankOrEnd (c.peekAt 3)

def atDocumentMarker (c : Cursor) : Bool := c.atMarker '-' || c.atMarker '.'

end Cursor

end SurveyLogic.Yaml
