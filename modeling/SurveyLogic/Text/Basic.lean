set_option autoImplicit false

namespace SurveyLogic

abbrev Text := List Char

def isBlank (c : Char) : Bool :=
  let n := c.toNat
  (0x9 ≤ n && n ≤ 0xD) || n == 0x20 || n == 0x85 || n == 0xA0 || n == 0x1680 ||
    (0x2000 ≤ n && n ≤ 0x200A) || n == 0x2028 || n == 0x2029 || n == 0x202F || n == 0x205F ||
    n == 0x3000

namespace Text

def blanks (t : Text) : Text := t.takeWhile isBlank

def trimStart (t : Text) : Text := t.dropWhile isBlank

def trimEnd (t : Text) : Text := (t.reverse.dropWhile isBlank).reverse

def trim (t : Text) : Text := trimEnd (trimStart t)

def allBlank (t : Text) : Bool := t.all isBlank

def lower (t : Text) : Text := t.map Char.toLower

def upper (t : Text) : Text := t.map Char.toUpper

def after? (lead t : Text) : Option Text :=
  match lead, t with
  | [], t => some t
  | _ :: _, [] => none
  | l :: lead, c :: t => if l = c then after? lead t else none

def before? (tail t : Text) : Option Text :=
  (after? tail.reverse t.reverse).map List.reverse

def slice (t : Text) (start stop : Nat) : Text := (t.take stop).drop start

def utf8Length (t : Text) : Nat := t.foldr (fun c bytes => c.utf8Size + bytes) 0

def ofNat (n : Nat) : Text := Nat.toDigits 10 n

end Text

end SurveyLogic
