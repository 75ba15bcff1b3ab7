import SurveyLogic.Yaml.Scalar
import SurveyLogic.Yaml.Tag

/-
The tokens of a YAML text. A key in a block, or one without a question mark in a flow collection,
is known as a key only when its colon is met; its token, and the start of a mapping that it opens,
are then put in front of it.
-/

set_option autoImplicit false

namespace SurveyLogic.Yaml

inductive Token where
  | directive (d : Directive)
  | documentStart
  | documentEnd
  | blockSequenceStart
  | blockMappingStart
  | blockEnd
  | flowSequenceStart
  | flowSequenceEnd
  | flowMappingStart
  | flowMappingEnd
  | blockEntry
  | flowEntry
  | key
  | value
  | alias (name : Text)
  | anchor (name : Text)
  | tag (handle suffix : Text)
  | scalar (text : Text) (style : Style)

structure KeyStart where
  required : Bool
  tokens : Nat
  bytes : Nat
  line : Nat
  column : Nat

-- How far a text has been read. `level` is one more than the column of the innermost block, and
-- zero outside every block; `keys` has one entry for the block context and one for each open flow
-- collection.
structure Lexer where
  cursor : Cursor
  tokens : Array Token
  level : Nat
  levels : List Nat
  keys : List (Option KeyStart)
  keyAllowed : Bool

namespace Lexer

def start (t : Text) : Lexer := ⟨.start t, #[], 0, [], [none], true⟩

def inFlow (s : Lexer) : Bool := 1 < s.keys.length

def move (s : Lexer) (c : Cursor) : Lexer := { s with cursor := c }

def skip (s : Lexer) (n : Nat) : Lexer := s.move (s.cursor.skip n)

def emit (s : Lexer) (t : Token) : Lexer := { s with tokens := s.tokens.push t }

def emitAt (s : Lexer) (n : Nat) (t : Token) : Lexer :=
  { s with tokens := (s.tokens.extract 0 n).push t ++ s.tokens.extract n s.tokens.size }

def allowKey (s : Lexer) (allowed : Bool) : Lexer := { s with keyAllowed := allowed }

-- Blanks, comments and breaks before the next token. In a block a tab may not stand where a key
-- may start, and each new line may start with a key. A line may start with a byte order mark, which
-- takes up a column.
def skipToToken (fuel : Nat) (s : Lexer) : Lexer :=
  match fuel with
  | 0 => s
  | fuel + 1 =>
    let tabs := s.inFlow || !s.keyAllowed
    let c := s.cursor
    let c := if c.column = 0 && c.sees (fun ch => ch.toNat = 0xFEFF) then c.skip 1 else c
    let c := c.skipWhile fun ch => ch = ' ' || (tabs && isTab ch)
    let c := if c.sees (· = '#') then c.skipWhile (! isBreak ·) else c
    if c.sees isBreak then
      skipToToken fuel ((s.move c.skipBreak).allowKey (!s.inFlow || s.keyAllowed))
    else s.move c

-- A key has to end on the line where it starts, and within 1024 bytes.
def isStale (c : Cursor) (k : KeyStart) : Bool := k.line < c.line || k.bytes + 1024 < c.bytes

def dropStaleKey (c : Cursor) : Option KeyStart → Option (Option KeyStart)
  | none => some none
  | some k => if isStale c k then (if k.required then none else some none) else some (some k)

def dropStaleKeys (s : Lexer) : Option Lexer := do
  let keys ← s.keys.mapM (dropStaleKey s.cursor)
  return { s with keys := keys }

def closeBlocks (s : Lexer) (level : Nat) : List Nat → Lexer
  | [] => s
  | outer :: levels =>
    if level < s.level then
      closeBlocks { s.emit .blockEnd with level := outer, levels := levels } level levels
    else s

def unindent (s : Lexer) (level : Nat) : Lexer :=
  if s.inFlow then s else s.closeBlocks level s.levels

def indent (s : Lexer) (column position : Nat) (t : Token) : Lexer :=
  if s.inFlow || column < s.level then s
  else { s.emitAt position t with level := column + 1, levels := s.level :: s.levels }

def dropKey (s : Lexer) : Option Lexer :=
  match s.keys with
  | some k :: keys => if k.required then none else some { s with keys := none :: keys }
  | _ => some s

def markKey (s : Lexer) : Option Lexer :=
  if s.keyAllowed then do
    let c := s.cursor
    let required := !s.inFlow && s.level = c.column + 1
    let s ← s.dropKey
    let k := some ⟨required, s.tokens.size, c.bytes, c.line, c.column⟩
    return { s with keys := k :: s.keys.drop 1 }
  else some s

def lexDocumentMarker (s : Lexer) (t : Token) : Option Lexer := do
  let s ← (s.unindent 0).dropKey
  return ((s.allowKey false).skip 3).emit t

def lexDirective (s : Lexer) : Option Lexer := do
  let s ← (s.unindent 0).dropKey
  let (d, c) ← scanDirective (s.cursor.skip 1)
  return ((s.allowKey false).move c).emit (.directive d)

def lexFlowStart (s : Lexer) (t : Token) : Option Lexer := do
  let s ← s.markKey
  return (({ s with keys := none :: s.keys }.allowKey true).skip 1).emit t

def lexFlowEnd (s : Lexer) (t : Token) : Option Lexer := do
  let s ← s.dropKey
  let keys := if s.inFlow then s.keys.drop 1 else s.keys
  return (({ s with keys := keys }.allowKey false).skip 1).emit t

def lexFlowEntry (s : Lexer) : Option Lexer := do
  let s ← s.dropKey
  return ((s.allowKey true).skip 1).emit .flowEntry

def lexBlockEntry (s : Lexer) : Option Lexer := do
  guard (s.inFlow || s.keyAllowed)
  let s ← (s.indent s.cursor.column s.tokens.size .blockSequenceStart).dropKey
  return ((s.allowKey true).skip 1).emit .blockEntry

def lexKey (s : Lexer) : Option Lexer := do
  guard (s.inFlow || s.keyAllowed)
  let s ← (s.indent s.cursor.column s.tokens.size .blockMappingStart).dropKey
  return ((s.allowKey !s.inFlow).skip 1).emit .key

def lexValue (s : Lexer) : Option Lexer := do
  match s.keys with
  | some k :: keys =>
    let s := (s.emitAt k.tokens .key).indent k.column k.tokens .blockMappingStart
    return (({ s with keys := none :: keys }.allowKey false).skip 1).emit .value
  | _ =>
    guard (s.inFlow || s.keyAllowed)
    let s := s.indent s.cursor.column s.tokens.size .blockMappingStart
    return ((s.allowKey !s.inFlow).skip 1).emit .value

def lexAnchor (s : Lexer) (token : Text → Token) : Option Lexer := do
  let s ← s.markKey
  let (name, c) ← scanAnchor (s.cursor.skip 1)
  return ((s.allowKey false).move c).emit (token name)

def lexTag (s : Lexer) : Option Lexer := do
  let s ← s.markKey
  let (handle, suffix, c) ← scanTag s.inFlow s.cursor
  return ((s.allowKey false).move c).emit (.tag handle suffix)

def lexBlockScalar (s : Lexer) (literal : Bool) : Option Lexer := do
  let s ← s.dropKey
  let (text, c) ← scanBlock literal s.level (s.cursor.skip 1)
  return ((s.allowKey true).move c).emit (.scalar text (if literal then .literal else .folded))

def lexQuoted (s : Lexer) (single : Bool) : Option Lexer := do
  let s ← s.markKey
  let c := s.cursor.skip 1
  let (text, c) ← scanQuoted single (c.rest.length + 1) [] c
  return ((s.allowKey false).move c).emit (.scalar text .quoted)

def lexPlain (s : Lexer) : Option Lexer := do
  let s ← s.markKey
  let fuel := s.cursor.rest.length + 1
  let (text, broken, c) ← scanPlain s.inFlow s.level fuel [] .none s.cursor
  return ((s.allowKey broken).move c).emit (.scalar text .plain)

def isIndicator (c : Char) : Bool :=
  ['-', '?', ':', ',', '[', ']', '{', '}', '#', '&', '*', '!', '|', '>', '\'', '"', '%', '@',
    backquote].contains c

def startsPlain (inFlow : Bool) (ch : Char) (next : Option Char) : Bool :=
  !(isBlank ch || isBreak ch || isIndicator ch) || (ch = '-' && !next.any isBlank) ||
    (!inFlow && (ch = '?' || ch = ':') && !isBlankOrEnd next)

def lexToken (s : Lexer) (ch : Char) : Option Lexer :=
  let c := s.cursor
  let alone := isBlankOrEnd (c.peekAt 1)
  if c.column = 0 && ch = '%' then s.lexDirective
  else if c.atMarker '-' then s.lexDocumentMarker .documentStart
  else if c.atMarker '.' then s.lexDocumentMarker .documentEnd
  else if ch = '[' then s.lexFlowStart .flowSequenceStart
  else if ch = '{' then s.lexFlowStart .flowMappingStart
  else if ch = ']' then s.lexFlowEnd .flowSequenceEnd
  else if ch = '}' then s.lexFlowEnd .flowMappingEnd
  else if ch = ',' then s.lexFlowEntry
  else if ch = '-' && alone then s.lexBlockEntry
  else if ch = '?' && (s.inFlow || alone) then s.lexKey
  else if ch = ':' && (s.inFlow || alone) then s.lexValue
  else if ch = '*' then s.lexAnchor .alias
  else if ch = '&' then s.lexAnchor .anchor
  else if ch = '!' then s.lexTag
  else if ch = '|' && !s.inFlow then s.lexBlockScalar true
  else if ch = '>' && !s.inFlow then s.lexBlockScalar false
  else if ch = '\'' then s.lexQuoted true
  else if ch = '"' then s.lexQuoted false
  else if startsPlain s.inFlow ch (c.peekAt 1) then s.lexPlain
  else none

def finish (s : Lexer) : Option (List Token) := do
  let s ← (s.unindent 0).dropKey
  return s.tokens.toList

def run (fuel : Nat) (s : Lexer) : Option (List Token) :=
  match fuel with
  | 0 => none
  | fuel + 1 => do
    let s ← (s.skipToToken (s.cursor.rest.length + 1)).dropStaleKeys
    let s := s.unindent (s.cursor.column + 1)
    match s.cursor.peek with
    | none => s.finish
    | some ch => run fuel (← s.lexToken ch)

end Lexer

def tokens? (t : Text) : Option (List Token) :=
  if t.all isPrintable then (Lexer.start t).run (t.length + 1) else none

end SurveyLogic.Yaml
