import SurveyLogic.Text.Basic

set_option autoImplicit false

namespace SurveyLogic

structure Span where
  start : Nat
  stop : Nat
deriving DecidableEq

def Span.contains (s : Span) (position : Nat) : Bool := s.start ≤ position && position < s.stop

structure JoinMatch extends Span where
  keyword : Text
deriving DecidableEq

def isQuoteMark (c : Char) : Bool := c = '\'' || c = '"'

-- The spans of quoted literals from a position on. `opened` is the quote that is still open and
-- where it started; one that is never closed runs to the end.
def literalSpansFrom (position : Nat) (opened : Option (Char × Nat)) : Text → List Span
  | [] =>
    match opened with
    | some (_, start) => [⟨start, position⟩]
    | none => []
  | c :: t =>
    match opened with
    | some (quote, start) =>
      if c = quote then ⟨start, position + 1⟩ :: literalSpansFrom (position + 1) none t
      else literalSpansFrom (position + 1) opened t
    | none =>
      literalSpansFrom (position + 1) (if isQuoteMark c then some (c, position) else none) t

def literalSpans (t : Text) : List Span := literalSpansFrom 0 none t

def keyword? (t : Text) : Option Text :=
  if Text.lower (t.take 3) = "and".toList then some (t.take 3)
  else if Text.lower (t.take 2) = "or".toList then some (t.take 2)
  else none

def joinHere? (t : Text) : Option (Text × Nat) :=
  let lead := t.blanks
  match keyword? (t.drop lead.length) with
  | none => none
  | some keyword =>
    let trail := Text.blanks (t.drop (lead.length + keyword.length))
    if lead.isEmpty || trail.isEmpty then none
    else some (keyword, lead.length + keyword.length + trail.length)

-- The joins from a position on, leftmost first. `skip` characters belong to the join before.
def joinsFrom (position skip : Nat) : Text → List JoinMatch
  | [] => []
  | c :: t =>
    match skip with
    | skip + 1 => joinsFrom (position + 1) skip t
    | 0 =>
      (joinHere? (c :: t)).elim (joinsFrom (position + 1) 0 t) fun (keyword, length) =>
        ⟨⟨position, position + length⟩, keyword⟩ :: joinsFrom (position + 1) (length - 1) t

def joins (t : Text) : List JoinMatch := joinsFrom 0 0 t

def topLevelJoins (t : Text) : List JoinMatch :=
  let quoted := literalSpans t
  (joins t).filter fun join => !quoted.any (·.contains join.start)

def clausesFrom (t : Text) (start : Nat) : List JoinMatch → List Text
  | [] => [t.drop start]
  | join :: rest => t.slice start join.start :: clausesFrom t join.stop rest

def clauses (t : Text) : List JoinMatch → List Text := clausesFrom t 0

end SurveyLogic
