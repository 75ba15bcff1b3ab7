import SurveyLogic.Json.Numeral
import SurveyLogic.Json.Quoted

set_option autoImplicit false

namespace SurveyLogic.Json

def isJsonBlank (c : Char) : Bool := c = ' ' || c = '\n' || c = '\t' || c = '\r'

def skipBlanks (t : Text) : Text := t.dropWhile isJsonBlank

def isNull : Json → Bool
  | null => true
  | _ => false

def ident (expected t : Text) : Except Fault Text :=
  match expected, t with
  | [], t => .ok t
  | _ :: _, [] => .error .eof
  | e :: expected, c :: t => if e = c then ident expected t else .error .malformed

def readIdent (expected : Text) (value : Json) (t : Text) : Json × Option Text :=
  match ident expected t with
  | .ok rest => (value, some rest)
  | .error fault => (word value.isNull fault, none)

def afterColon (t : Text) : Except Fault Text :=
  match skipBlanks t with
  | [] => .error .eof
  | ':' :: rest => .ok rest
  | _ => .error .malformed

mutual
def readValue (fuel : Nat) (t : Text) : Json × Option Text :=
  match fuel with
  | 0 => (broken .eof, none)
  | fuel + 1 =>
    match skipBlanks t with
    | [] => (broken .eof, none)
    | '"' :: rest => let (s, rest) := Quoted.scan rest; (string s, rest)
    | '[' :: rest =>
      let (items, ending, rest) := readItems fuel true rest
      (array items ending, rest)
    | '{' :: rest =>
      let (members, ending, rest) := readMembers fuel true rest
      (object members ending, rest)
    | 'n' :: rest => readIdent ['u', 'l', 'l'] null rest
    | 't' :: rest => readIdent ['r', 'u', 'e'] (bool true) rest
    | 'f' :: rest => readIdent ['a', 'l', 's', 'e'] (bool false) rest
    | c :: rest =>
      if c = '-' ∨ isAsciiDigit c then Numeral.read (c :: rest) else (broken .malformed, none)

def readItems (fuel : Nat) (first : Bool) (t : Text) : List Json × Ending × Option Text :=
  match fuel with
  | 0 => ([], .broken (!first) .eof, none)
  | fuel + 1 =>
    match skipBlanks t with
    | [] => ([], .broken (!first) .eof, none)
    | ']' :: rest =>
      if first then ([], .closed, some rest) else ([], .broken true .malformed, none)
    | _ =>
      match readValue fuel t with
      | (item, none) => ([item], .closed, none)
      | (item, some rest) =>
        match skipBlanks rest with
        | ']' :: rest => ([item], .closed, some rest)
        | ',' :: rest =>
          let (items, ending, rest) := readItems fuel false rest
          (item :: items, ending, rest)
        | [] => ([item], .broken false .eof, none)
        | _ => ([item], .broken false .malformed, none)

def readMembers (fuel : Nat) (first : Bool) (t : Text) :
    List (Scalar Text × Json) × Ending × Option Text :=
  match fuel with
  | 0 => ([], .broken (!first) .eof, none)
  | fuel + 1 =>
    match skipBlanks t with
    | [] => ([], .broken (!first) .eof, none)
    | '}' :: rest =>
      if first then ([], .closed, some rest) else ([], .broken true .malformed, none)
    | '"' :: rest =>
      match Quoted.scan rest with
      | (key, none) => ([(key, null)], .closed, none)
      | (key, some rest) =>
        match afterColon rest with
        | .error fault => ([(key, broken fault)], .closed, none)
        | .ok rest =>
          match readValue fuel rest with
          | (value, none) => ([(key, value)], .closed, none)
          | (value, some rest) =>
            match skipBlanks rest with
            | '}' :: rest => ([(key, value)], .closed, some rest)
            | ',' :: rest =>
              let (members, ending, rest) := readMembers fuel false rest
              ((key, value) :: members, ending, rest)
            | [] => ([(key, value)], .broken false .eof, none)
            | _ => ([(key, value)], .broken false .malformed, none)
    | _ => ([], .broken (!first) .malformed, none)
end

structure Document where
  value : Json
  trailing : Bool

def Document.ofText (t : Text) : Document :=
  match readValue (2 * t.length + 2) t with
  | (value, none) => ⟨value, false⟩
  | (value, some rest) => ⟨value, !(skipBlanks rest).isEmpty⟩

end SurveyLogic.Json
