import SurveyLogic.Text.Basic
import SurveyLogic.Text.WordRanges
import SurveyLogic.Text.DigitRanges

set_option autoImplicit false

namespace SurveyLogic

def inRanges (ranges : List (Nat × Nat)) (n : Nat) : Bool :=
  ranges.any fun range => range.1 ≤ n && n ≤ range.2

def isAsciiDigit (c : Char) : Bool := '0' ≤ c && c ≤ '9'

def isDigit (c : Char) : Bool :=
  if c.toNat < 0x80 then isAsciiDigit c else inRanges digitRanges c.toNat

def isWord (c : Char) : Bool :=
  if c.toNat < 0x80 then c.isAlphanum || c == '_' else inRanges wordRanges c.toNat

end SurveyLogic
