import SurveyLogic.Text.Basic

set_option autoImplicit false

namespace SurveyLogic

inductive TableError where
  | unknownToken (token : Text)
  | unknownName (name : Text)
  | unknownJoin (text : Text)
deriving DecidableEq

def TableError.message : TableError → Text
  | .unknownToken token => "Unknown operator token: ".toList ++ token
  | .unknownName name => "Unknown operator name: ".toList ++ name
  | .unknownJoin text => "Unknown join operator: ".toList ++ text

inductive Kind where
  | existence
  | comparison
  | multiSelect
deriving DecidableEq

inductive Operator where
  | equals
  | notEquals
  | greater
  | less
  | greaterEquals
  | lessEquals
  | notNull
  | null
  | selected
  | notSelected
deriving DecidableEq

namespace Operator

def all : List Operator :=
  [equals, notEquals, greater, less, greaterEquals, lessEquals, notNull, null, selected,
    notSelected]

def kind : Operator → Kind
  | notNull | null => .existence
  | selected | notSelected => .multiSelect
  | _ => .comparison

def takesValue (op : Operator) : Bool := op.kind != .existence

def token : Operator → Text
  | equals => "=".toList
  | notEquals => "!=".toList
  | greater => ">".toList
  | less => "<".toList
  | greaterEquals => ">=".toList
  | lessEquals => "<=".toList
  | notNull => "!=''".toList
  | null => "=''".toList
  | selected => "selected".toList
  | notSelected => "not(selected".toList

def name : Operator → Text
  | equals => "resp_equals".toList
  | notEquals => "resp_notequals".toList
  | greater => "resp_greater".toList
  | less => "resp_less".toList
  | greaterEquals => "resp_greaterequals".toList
  | lessEquals => "resp_lessequals".toList
  | notNull => "ans_notnull".toList
  | null => "ans_null".toList
  | selected => "multiplechoice_selected".toList
  | notSelected => "multiplechoice_notselected".toList

-- The operator of a source token without blanks and with an upper-case `NULL`. The multiselect
-- operators are told by the shape of a clause and have no entry.
def ofToken (token : Text) : Except TableError Operator :=
  if token = "=".toList then .ok equals
  else if token = "!=".toList then .ok notEquals
  else if token = ">".toList then .ok greater
  else if token = "<".toList then .ok less
  else if token = ">=".toList then .ok greaterEquals
  else if token = "<=".toList then .ok lessEquals
  else if token = "!=''".toList ∨ token = "!=NULL".toList then .ok notNull
  else if token = "=''".toList ∨ token = "=NULL".toList then .ok null
  else .error (.unknownToken token)

def ofName (name : Text) : Except TableError Operator :=
  match all.find? (fun op => op.name = name) with
  | some op => .ok op
  | none => .error (.unknownName name)

end Operator

inductive Join where
  | and
  | or
deriving DecidableEq

namespace Join

def keyword : Join → Text
  | .and => "and".toList
  | .or => "or".toList

def name : Join → Text
  | .and => "AND".toList
  | .or => "OR".toList

def ofText (text : Text) : Except TableError Join :=
  let folded := text.trim.lower
  if folded = Join.and.keyword then .ok .and
  else if folded = Join.or.keyword then .ok .or
  else .error (.unknownJoin text)

end Join

end SurveyLogic
