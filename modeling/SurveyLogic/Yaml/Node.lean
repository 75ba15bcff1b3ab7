import SurveyLogic.Yaml.Token

/-
The nodes of a YAML text, built from its tokens. Anchors are numbered by how many names are bound
already, so that a name bound again shares its number with the next new name; an alias stands for
the last node of its number.
-/

set_option autoImplicit false

namespace SurveyLogic.Yaml

structure Scalar where
  text : Text
  style : Style
  tag : Option Text

inductive Node where
  | scalar (anchor : Option Nat) (s : Scalar)
  | sequence (anchor : Option Nat) (items : List Node)
  | mapping (anchor : Option Nat) (entries : List (Node × Node))
  | alias (id : Nat)

def Node.void : Node := .scalar none ⟨[], .plain, none⟩

mutual
def Node.anchored : Node → List (Nat × Node)
  | .scalar none _ => []
  | .scalar (some id) s => [(id, .scalar (some id) s)]
  | .sequence none items => anchoredItems items
  | .sequence (some id) items => (id, .sequence (some id) items) :: anchoredItems items
  | .mapping none entries => anchoredEntries entries
  | .mapping (some id) entries => (id, .mapping (some id) entries) :: anchoredEntries entries
  | .alias _ => []

def anchoredItems : List Node → List (Nat × Node)
  | [] => []
  | item :: items => item.anchored ++ anchoredItems items

def anchoredEntries : List (Node × Node) → List (Nat × Node)
  | [] => []
  | (key, value) :: entries => key.anchored ++ value.anchored ++ anchoredEntries entries
end

mutual
def Node.size : Node → Nat
  | .scalar _ _ => 1
  | .sequence _ items => sizeOfItems items + 2
  | .mapping _ entries => sizeOfEntries entries + 2
  | .alias _ => 1

def sizeOfItems : List Node → Nat
  | [] => 0
  | item :: items => item.size + sizeOfItems items

def sizeOfEntries : List (Node × Node) → Nat
  | [] => 0
  | (key, value) :: entries => key.size + value.size + sizeOfEntries entries
end

structure Builder where
  tokens : List Token
  anchors : List (Text × Nat)
  handles : List (Text × Text)

namespace Builder

def rest (b : Builder) (tokens : List Token) : Builder := { b with tokens := tokens }

def boundNames (b : Builder) : Nat :=
  (b.anchors.foldl (fun names a => if names.contains a.1 then names else a.1 :: names) []).length

def bind (b : Builder) (anchor : Option Text) : Option Nat × Builder :=
  match anchor with
  | none => (none, b)
  | some name =>
    let id := b.boundNames
    (some id, { b with anchors := (name, id) :: b.anchors })

structure Properties where
  anchor : Option Text
  tag : Option (Text × Text)

def properties (b : Builder) : Properties × Builder :=
  match b.tokens with
  | .anchor name :: .tag handle suffix :: rest => (⟨some name, some (handle, suffix)⟩, b.rest rest)
  | .anchor name :: rest => (⟨some name, none⟩, b.rest rest)
  | .tag handle suffix :: .anchor name :: rest => (⟨some name, some (handle, suffix)⟩, b.rest rest)
  | .tag handle suffix :: rest => (⟨none, some (handle, suffix)⟩, b.rest rest)
  | _ => (⟨none, none⟩, b)

def resolveTag (b : Builder) : Option (Text × Text) → Option (Option Text)
  | none => some none
  | some (handle, suffix) =>
    if handle.isEmpty then some (some suffix)
    else (b.handles.lookup handle).map fun start => some (start ++ suffix)

def endsEntry : List Token → Bool
  | .blockEntry :: _ => true
  | .blockEnd :: _ => true
  | _ => false

def endsIndentlessEntry : List Token → Bool
  | .blockEntry :: _ => true
  | .key :: _ => true
  | .value :: _ => true
  | .blockEnd :: _ => true
  | _ => false

def endsBlockPart : List Token → Bool
  | .key :: _ => true
  | .value :: _ => true
  | .blockEnd :: _ => true
  | _ => false

def endsFlowKey (close : Token → Bool) : List Token → Bool
  | .value :: _ => true
  | .flowEntry :: _ => true
  | t :: _ => close t
  | [] => false

def endsFlowValue (close : Token → Bool) : List Token → Bool
  | .flowEntry :: _ => true
  | t :: _ => close t
  | [] => false

def isSequenceEnd : Token → Bool
  | .flowSequenceEnd => true
  | _ => false

def isMappingEnd : Token → Bool
  | .flowMappingEnd => true
  | _ => false

-- Where nodes stand: in a block or a flow collection, or where a sequence need not be indented.
inductive Place where
  | block
  | indentless
  | flow
deriving DecidableEq

mutual
def node (place : Place) (fuel : Nat) (b : Builder) : Option (Node × Builder) :=
  match fuel with
  | 0 => none
  | fuel + 1 =>
    match b.tokens with
    | .alias name :: rest => do
      return (.alias (← b.anchors.lookup name), b.rest rest)
    | _ => do
      let (p, b) := b.properties
      let tag ← b.resolveTag p.tag
      match b.tokens with
      | .scalar text style :: rest =>
        let (id, b) := b.bind p.anchor
        return (.scalar id ⟨text, style, tag⟩, b.rest rest)
      | .flowSequenceStart :: rest => do
        let (id, b) := b.bind p.anchor
        let (items, b) ← flowSequence true fuel (b.rest rest)
        return (.sequence id items, b)
      | .flowMappingStart :: rest => do
        let (id, b) := b.bind p.anchor
        let (entries, b) ← flowMapping true fuel (b.rest rest)
        return (.mapping id entries, b)
      | .blockEntry :: _ =>
        if place = .indentless then do
          let (id, b) := b.bind p.anchor
          let (items, b) ← indentlessSequence fuel b
          return (.sequence id items, b)
        else blankNode p tag b
      | .blockSequenceStart :: rest =>
        if place = .flow then blankNode p tag b
        else do
          let (id, b) := b.bind p.anchor
          let (items, b) ← blockSequence fuel (b.rest rest)
          return (.sequence id items, b)
      | .blockMappingStart :: rest =>
        if place = .flow then blankNode p tag b
        else do
          let (id, b) := b.bind p.anchor
          let (entries, b) ← blockMapping fuel (b.rest rest)
          return (.mapping id entries, b)
      | _ => blankNode p tag b

def blankNode (p : Properties) (tag : Option Text) (b : Builder) : Option (Node × Builder) :=
  if p.anchor.isSome || tag.isSome then
    let (id, b) := b.bind p.anchor
    some (.scalar id ⟨[], .plain, tag⟩, b)
  else none

def nodeUnless (ends : List Token → Bool) (place : Place) (fuel : Nat) (b : Builder) :
    Option (Node × Builder) :=
  match fuel with
  | 0 => none
  | fuel + 1 => if ends b.tokens then some (.void, b) else node place fuel b

def blockSequence (fuel : Nat) (b : Builder) : Option (List Node × Builder) :=
  match fuel with
  | 0 => none
  | fuel + 1 =>
    match b.tokens with
    | .blockEntry :: rest => do
      let (item, b) ← nodeUnless endsEntry .block fuel (b.rest rest)
      let (items, b) ← blockSequence fuel b
      return (item :: items, b)
    | .blockEnd :: rest => some ([], b.rest rest)
    | _ => none

def indentlessSequence (fuel : Nat) (b : Builder) : Option (List Node × Builder) :=
  match fuel with
  | 0 => none
  | fuel + 1 =>
    match b.tokens with
    | .blockEntry :: rest => do
      let (item, b) ← nodeUnless endsIndentlessEntry .block fuel (b.rest rest)
      let (items, b) ← indentlessSequence fuel b
      return (item :: items, b)
    | _ => some ([], b)

def blockMapping (fuel : Nat) (b : Builder) : Option (List (Node × Node) × Builder) :=
  match fuel with
  | 0 => none
  | fuel + 1 =>
    match b.tokens with
    | .key :: rest => do
      let (key, b) ← nodeUnless endsBlockPart .indentless fuel (b.rest rest)
      let (value, b) ← match b.tokens with
        | .value :: rest => nodeUnless endsBlockPart .indentless fuel (b.rest rest)
        | _ => some (.void, b)
      let (entries, b) ← blockMapping fuel b
      return ((key, value) :: entries, b)
    | .blockEnd :: rest => some ([], b.rest rest)
    | _ => none

def flowSequence (first : Bool) (fuel : Nat) (b : Builder) : Option (List Node × Builder) :=
  match fuel with
  | 0 => none
  | fuel + 1 =>
    match b.tokens with
    | .flowSequenceEnd :: rest => some ([], b.rest rest)
    | tokens => do
      let b ← if first then some b else
        match tokens with
        | .flowEntry :: rest => some (b.rest rest)
        | _ => none
      match b.tokens with
      | .key :: rest =>
        let (entry, b) ← singlePair fuel (b.rest rest)
        let (items, b) ← flowSequence false fuel b
        return (.mapping none [entry] :: items, b)
      | .flowSequenceEnd :: rest => return ([], b.rest rest)
      | _ =>
        let (item, b) ← node .flow fuel b
        let (items, b) ← flowSequence false fuel b
        return (item :: items, b)

-- One key and value inside a flow sequence. A key that is left out takes a token with it.
def singlePair (fuel : Nat) (b : Builder) : Option ((Node × Node) × Builder) :=
  match fuel with
  | 0 => none
  | fuel + 1 => do
    let (key, b) ←
      if endsFlowKey isSequenceEnd b.tokens then some (Node.void, b.rest (b.tokens.drop 1))
      else node .flow fuel b
    let (value, b) ← flowValue isSequenceEnd fuel b
    return ((key, value), b)

def flowValue (close : Token → Bool) (fuel : Nat) (b : Builder) : Option (Node × Builder) :=
  match fuel with
  | 0 => none
  | fuel + 1 =>
    match b.tokens with
    | .value :: rest => nodeUnless (endsFlowValue close) .flow fuel (b.rest rest)
    | _ => some (.void, b)

def flowMapping (first : Bool) (fuel : Nat) (b : Builder) :
    Option (List (Node × Node) × Builder) :=
  match fuel with
  | 0 => none
  | fuel + 1 =>
    match b.tokens with
    | .flowMappingEnd :: rest => some ([], b.rest rest)
    | tokens => do
      let b ← if first then some b else
        match tokens with
        | .flowEntry :: rest => some (b.rest rest)
        | _ => none
      match b.tokens with
      | .flowMappingEnd :: rest => return ([], b.rest rest)
      | .key :: rest =>
        let (key, b) ← nodeUnless (endsFlowKey isMappingEnd) .flow fuel (b.rest rest)
        let (value, b) ← flowValue isMappingEnd fuel b
        let (entries, b) ← flowMapping false fuel b
        return ((key, value) :: entries, b)
      | _ =>
        let (key, b) ← node .flow fuel b
        let (entries, b) ← flowMapping false fuel b
        return ((key, .void) :: entries, b)
end

def directives (versioned : Bool) (handles : List (Text × Text)) :
    List Token → Option (List (Text × Text) × List Token)
  | .directive (.version major minor) :: rest =>
    if versioned || major ≠ 1 || (minor ≠ 1 && minor ≠ 2) then none
    else directives true handles rest
  | .directive (.tag handle start) :: rest =>
    if (handles.lookup handle).isSome then none
    else directives versioned (handles ++ [(handle, start)]) rest
  | tokens => some (handles, tokens)

def standardHandles : List (Text × Text) :=
  [(['!'], ['!']), (['!', '!'], "tag:yaml.org,2002:".toList)]

def isDocumentEnd : Token → Bool
  | .documentEnd => true
  | _ => false

def startsDocument : List Token → Bool
  | .directive _ :: _ => true
  | .documentStart :: _ => true
  | _ => false

def endsDocument : List Token → Bool
  | [] => true
  | .documentEnd :: _ => true
  | tokens => startsDocument tokens

def document (tokens : List Token) : Option (Option Node) :=
  if tokens.isEmpty then some none
  else do
    let fuel := 4 * tokens.length + 8
    let (root, b) ←
      if startsDocument tokens then do
        let (handles, tokens) ← directives false [] tokens
        match tokens with
        | .documentStart :: rest =>
          let b : Builder := ⟨rest, [], handles ++ standardHandles⟩
          if endsDocument rest then pure (Node.void, b) else node .block fuel b
        | _ => failure
      else node .block fuel ⟨tokens, [], standardHandles⟩
    if b.tokens.all isDocumentEnd then return some root else failure

end Builder

structure Document where
  root : Node
  anchored : List (Nat × Node)

def Document.ofText? (t : Text) : Option Document := do
  let root := (← Builder.document (← tokens? t)).getD .void
  return ⟨root, root.anchored.reverse⟩

end SurveyLogic.Yaml
