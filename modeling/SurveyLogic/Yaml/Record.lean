import SurveyLogic.Codec.Form
import SurveyLogic.Codec.Settings
import SurveyLogic.Yaml.Node

/-
Forms and settings from YAML. Any scalar is a text as it is spelled; a scalar with nothing in it is
a record or a list with nothing in it. Keys that are no field are passed over, and what is missing
counts as in JSON. Reading follows aliases, but for each mark of the document not more than a
hundred times.
-/

set_option autoImplicit false

namespace SurveyLogic.Yaml

abbrev Anchored := List (Nat × Node)

abbrev Reading (α : Type) := StateT Nat Option α

abbrev Decoder (α : Type) := Anchored → Node → Reading α

def follow (anchored : Anchored) : Node → Reading Node
  | .alias id => fun left =>
    match left with
    | 0 => none
    | left + 1 => (anchored.lookup id).map fun node => (node, left)
  | node => pure node

def text : Decoder Text := fun anchored node => do
  match ← follow anchored node with
  | .scalar _ s => return s.text
  | _ => failure

def nullTag : Text := "tag:yaml.org,2002:null".toList

def boolTag : Text := "tag:yaml.org,2002:bool".toList

def isNull (t : Text) : Bool :=
  ["null".toList, "Null".toList, "NULL".toList, ['~']].contains t

def optionalText : Decoder (Option Text) := fun anchored node => do
  match ← follow anchored node with
  | .scalar _ s =>
    if s.style ≠ .plain then return some s.text
    else match s.tag with
      | some tag =>
        if tag = nullTag then
          if isNull s.text then return none else failure
        else return some s.text
      | none => return if s.text.isEmpty || isNull s.text then none else some s.text
  | _ => failure

def truth? (t : Text) : Option Bool :=
  if ["true".toList, "True".toList, "TRUE".toList].contains t then some true
  else if ["false".toList, "False".toList, "FALSE".toList].contains t then some false
  else none

def boolean : Decoder Bool := fun anchored node => do
  match ← follow anchored node with
  | .scalar _ s =>
    if s.style = .plain ∨ (s.style = .literal ∧ s.tag = some boolTag) then
      StateT.lift (truth? s.text)
    else failure
  | _ => failure

def isVoid (s : Scalar) : Bool := s.text.isEmpty && s.style = .plain

def list {α : Type} (decode : Decoder α) : Decoder (List α) := fun anchored node => do
  match ← follow anchored node with
  | .sequence _ items => items.mapM (decode anchored)
  | .scalar _ s => if isVoid s then return [] else failure
  | _ => failure

structure Field (δ : Type) where
  key : Text
  filled : δ → Bool
  fill : Anchored → Node → δ → Reading δ

def field {δ α : Type} (key : String) (get : δ → Option α) (set : δ → α → δ)
    (decode : Decoder α) : Field δ :=
  ⟨key.toList, fun draft => (get draft).isSome,
    fun anchored node draft => set draft <$> decode anchored node⟩

def fillEntries {δ : Type} (fields : List (Field δ)) (anchored : Anchored) (draft : δ) :
    List (Node × Node) → Reading δ
  | [] => pure draft
  | (key, value) :: entries => do
    let name ← text anchored key
    match fields.find? (fun f => f.key = name) with
    | none => fillEntries fields anchored draft entries
    | some f =>
      if f.filled draft then failure
      else fillEntries fields anchored (← f.fill anchored value draft) entries

def record {δ α : Type} (fields : List (Field δ)) (blank : δ) (finish : δ → α) : Decoder α :=
  fun anchored node => do
    match ← follow anchored node with
    | .mapping _ entries => return finish (← fillEntries fields anchored blank entries)
    | .scalar _ s => if isVoid s then return finish blank else failure
    | _ => failure

def row : Decoder Row :=
  record
    [field "type" Row.Draft.type (fun d x => { d with type := some x }) text,
      field "name" Row.Draft.name (fun d x => { d with name := some x }) optionalText,
      field "label" Row.Draft.label (fun d x => { d with label := some x }) optionalText,
      field "relevant" Row.Draft.relevant (fun d x => { d with relevant := some x }) optionalText,
      field "constraint" Row.Draft.constraint (fun d x => { d with constraint := some x })
        optionalText]
    .blank Row.Draft.finish

def form : Decoder Form :=
  record
    [field "id" Form.Draft.id (fun d x => { d with id := some x }) optionalText,
      field "survey" Form.Draft.survey (fun d x => { d with survey := some x }) (list row)]
    ⟨none, none⟩ Form.Draft.finish

def options : Decoder CheckOptions :=
  record
    [field "check_references" CheckOptions.Draft.checkReferences
        (fun d x => { d with checkReferences := some x }) boolean,
      field "check_duplicate_names" CheckOptions.Draft.checkDuplicateNames
        (fun d x => { d with checkDuplicateNames := some x }) boolean,
      field "verify_round_trip" CheckOptions.Draft.verifyRoundTrip
        (fun d x => { d with verifyRoundTrip := some x }) boolean,
      field "fail_fast" CheckOptions.Draft.failFast (fun d x => { d with failFast := some x })
        boolean]
    .blank CheckOptions.Draft.finish

def settings : Decoder Settings :=
  record
    [field "validation" Settings.Draft.validation (fun d x => { d with validation := some x })
        options,
      field "strict_round_trip" Settings.Draft.strictRoundTrip
        (fun d x => { d with strictRoundTrip := some x }) boolean]
    ⟨none, none⟩ Settings.Draft.finish

def decodeText {α : Type} (decode : Decoder α) (t : Text) : Option α := do
  let document ← Document.ofText? t
  (decode document.anchored document.root).run' (100 * document.root.size)

end SurveyLogic.Yaml

namespace SurveyLogic

def Form.ofYaml? (t : Text) : Option Form := Yaml.decodeText Yaml.form t

def Settings.ofYaml? (t : Text) : Option Settings := Yaml.decodeText Yaml.settings t

end SurveyLogic
