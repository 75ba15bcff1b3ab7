import SurveyLogic.Literal
import SurveyLogic.Reference

set_option autoImplicit false

namespace SurveyLogic

structure Grammar where
  takesDot : Bool
deriving DecidableEq

def ReferenceStyle.grammar (style : ReferenceStyle) : Grammar := ⟨style.takesDot⟩

structure ExistenceMatch where
  reference : Text
  check : Text

structure ComparisonMatch where
  reference : Text
  symbol : Text
  operand : Text

structure SelectionMatch where
  before : Text
  reference : Text
  choice : Text
  after : Text

namespace Grammar

def reference? (g : Grammar) : Text → Option (Text × Text)
  | '$' :: '{' :: t =>
    let name := t.takeWhile isWord
    match t.dropWhile isWord with
    | '}' :: rest => if name.isEmpty then none else some (ReferenceStyle.braced name, rest)
    | _ => none
  | '.' :: rest => if g.takesDot then some (['.'], rest) else none
  | _ => none

def afterEquality? : Text → Option Text
  | '=' :: rest => some rest
  | '!' :: '=' :: rest => some rest
  | _ => none

def isNothing (t : Text) : Bool := t = "''".toList || t = "\"\"".toList || t.upper = "NULL".toList

def existence? (g : Grammar) (t : Text) : Option ExistenceMatch :=
  match g.reference? t with
  | none => none
  | some (reference, rest) =>
    let check := rest.trimStart
    match afterEquality? check with
    | none => none
    | some operand => if isNothing operand.trimStart then some ⟨reference, check⟩ else none

def symbol? : Text → Option (Text × Text)
  | '!' :: '=' :: rest => some (['!', '='], rest)
  | '>' :: '=' :: rest => some (['>', '='], rest)
  | '<' :: '=' :: rest => some (['<', '='], rest)
  | '=' :: rest => some (['='], rest)
  | '>' :: rest => some (['>'], rest)
  | '<' :: rest => some (['<'], rest)
  | _ => none

def comparison? (g : Grammar) (t : Text) : Option ComparisonMatch :=
  match g.reference? t with
  | none => none
  | some (reference, rest) =>
    match symbol? rest.trimStart with
    | none => none
    | some (symbol, rest) =>
      let operand := rest.trimStart
      if Literal.isOperand operand then some ⟨reference, symbol, operand⟩ else none

def quoted? : Text → Option (Text × Text)
  | [] => none
  | c :: t =>
    if c = '\'' ∨ c = '"' then
      match t.dropWhile (· ≠ c) with
      | [] => none
      | close :: rest => some (c :: t.takeWhile (· ≠ c) ++ [close], rest)
    else none

def selectionHere? (g : Grammar) (t : Text) : Option SelectionMatch := do
  let arguments ← Text.after? "selected(".toList t
  let (reference, rest) ← g.reference? arguments.trimStart
  let rest ← Text.after? [','] rest.trimStart
  let (choice, rest) ← quoted? rest.trimStart
  let after ← Text.after? [')'] rest.trimStart
  return ⟨[], reference, choice, after⟩

def selection? (g : Grammar) : Text → Option SelectionMatch
  | [] => none
  | c :: t =>
    match g.selectionHere? (c :: t) with
    | some found => some found
    | none => (g.selection? t).map fun found => { found with before := c :: found.before }

end Grammar

end SurveyLogic
