import SurveyLogic.Text.Hex
import SurveyLogic.Yaml.Cursor

/-
The scalars of YAML: plain, in single or double quotes, and in blocks. A line break inside a scalar
is folded: one break becomes a space, and of several all but the first are kept.
-/

set_option autoImplicit false

namespace SurveyLogic.Yaml

inductive Style where
  | plain
  | quoted
  | literal
  | folded
deriving DecidableEq

def fold (leading trailing : Text) : Text :=
  if leading = ['\n'] then (if trailing.isEmpty then [' '] else trailing) else leading ++ trailing

structure Gap where
  blanks : Text
  leading : Text
  trailing : Text
  broken : Bool

namespace Gap

def none : Gap := ⟨[], [], [], false⟩

def text (g : Gap) : Text := if g.broken then fold g.leading g.trailing else g.blanks

def scan (indent : Nat) (fuel : Nat) (g : Gap) (c : Cursor) : Option (Gap × Cursor) :=
  match fuel, c.peek with
  | fuel + 1, some ch =>
    if isBlank ch then
      if g.broken then
        if isTab ch && c.column < indent then Option.none else scan indent fuel g (c.skip 1)
      else scan indent fuel { g with blanks := g.blanks ++ [ch] } (c.skip 1)
    else if isBreak ch then
      let (b, c) := c.takeBreak
      if g.broken then scan indent fuel { g with trailing := g.trailing ++ b } c
      else scan indent fuel ⟨[], b, g.trailing, true⟩ c
    else some (g, c)
  | _, _ => some (g, c)

end Gap

def isFlowIndicator (c : Char) : Bool := [',', '[', ']', '{', '}'].contains c

def plainRun (inFlow : Bool) : Text → Option Text
  | [] => some []
  | c :: rest =>
    if isBlank c || isBreak c then some []
    else if c = ':' && inFlow && rest.head?.any (fun d => isFlowIndicator d || d = '?') then none
    else if (c = ':' && isBlankOrEnd rest.head?) || (inFlow && isFlowIndicator c) then some []
    else (plainRun inFlow rest).map (c :: ·)

def scanPlain (inFlow : Bool) (indent fuel : Nat) (text : Text) (gap : Gap) (c : Cursor) :
    Option (Text × Bool × Cursor) :=
  match fuel with
  | 0 => none
  | fuel + 1 =>
    if c.atDocumentMarker || c.sees (· = '#') then some (text, gap.broken, c)
    else do
      let run ← plainRun inFlow c.rest
      let (text, gap) := if run.isEmpty then (text, gap) else (text ++ gap.text ++ run, Gap.none)
      let c := c.skip run.length
      if c.sees (fun ch => isBlank ch || isBreak ch) then
        let (gap, c) ← gap.scan indent (c.rest.length + 1) c
        if !inFlow && c.column < indent then return (text, gap.broken, c)
        else scanPlain inFlow indent fuel text gap c
      else return (text, gap.broken, c)

def escaped? : Char → Option (Char ⊕ Nat)
  | '0' => some (.inl (Char.ofNat 0))
  | 'a' => some (.inl (Char.ofNat 7))
  | 'b' => some (.inl (Char.ofNat 8))
  | 't' => some (.inl '\t')
  | '\t' => some (.inl '\t')
  | 'n' => some (.inl '\n')
  | 'v' => some (.inl (Char.ofNat 11))
  | 'f' => some (.inl (Char.ofNat 12))
  | 'r' => some (.inl '\r')
  | 'e' => some (.inl (Char.ofNat 27))
  | ' ' => some (.inl ' ')
  | '"' => some (.inl '"')
  | '/' => some (.inl '/')
  | '\\' => some (.inl '\\')
  | 'N' => some (.inl (Char.ofNat 0x85))
  | '_' => some (.inl (Char.ofNat 0xA0))
  | 'L' => some (.inl (Char.ofNat 0x2028))
  | 'P' => some (.inl (Char.ofNat 0x2029))
  | 'x' => some (.inr 2)
  | 'u' => some (.inr 4)
  | 'U' => some (.inr 8)
  | _ => none

def scanEscape (c : Cursor) : Option (Char × Cursor) := do
  match ← escaped? (← c.peek) with
  | .inl ch => return (ch, c.skip 1)
  | .inr length =>
    let digits := (c.skip 1).rest.take length
    let n ← Hex.value? digits
    if digits.length = length ∧ (n < 0xD800 ∨ 0xE000 ≤ n) ∧ n ≤ 0x10FFFF then
      return (Char.ofNat n, c.skip (length + 1))
    else failure

def quotedRun (single : Bool) (fuel : Nat) (c : Cursor) : Option (Text × Bool × Cursor) :=
  match fuel, c.rest with
  | 0, _ => none
  | _, [] => some ([], false, c)
  | fuel + 1, ch :: rest =>
    if isBlank ch || isBreak ch then some ([], false, c)
    else if single then
      if ch ≠ '\'' then (quotedRun single fuel (c.skip 1)).map fun (t, r) => (ch :: t, r)
      else if rest.head? = some '\'' then
        (quotedRun single fuel (c.skip 2)).map fun (t, r) => (ch :: t, r)
      else some ([], false, c)
    else if ch = '"' then some ([], false, c)
    else if ch ≠ '\\' then (quotedRun single fuel (c.skip 1)).map fun (t, r) => (ch :: t, r)
    else if rest.head?.any isBreak then some ([], true, (c.skip 1).skipBreak)
    else do
      let (decoded, c) ← scanEscape (c.skip 1)
      (quotedRun single fuel c).map fun (t, r) => (decoded :: t, r)

def scanQuoted (single : Bool) (fuel : Nat) (text : Text) (c : Cursor) : Option (Text × Cursor) :=
  match fuel with
  | 0 => none
  | fuel + 1 =>
    if c.atDocumentMarker || c.atEnd then none
    else do
      let (run, broken, c) ← quotedRun single (c.rest.length + 1) c
      if c.sees (· = (if single then '\'' else '"')) then return (text ++ run, c.skip 1)
      else
        let (gap, c) ← Gap.scan 0 (c.rest.length + 1) ⟨[], [], [], broken⟩ c
        scanQuoted single fuel (text ++ run ++ gap.text) c

inductive Chomping where
  | strip
  | clip
  | keep
deriving DecidableEq

def chomping? (c : Cursor) : Option (Chomping × Cursor) :=
  match c.peek with
  | some '+' => some (.keep, c.skip 1)
  | some '-' => some (.strip, c.skip 1)
  | _ => none

def indentation? (c : Cursor) : Option (Option Nat × Cursor) :=
  match c.peek with
  | some ch =>
    if ch = '0' then none
    else if isAsciiDigit ch then some (some (ch.toNat - '0'.toNat), c.skip 1)
    else some (none, c)
  | none => some (none, c)

def blockHeader (c : Cursor) : Option (Chomping × Option Nat × Cursor) :=
  match chomping? c with
  | some (chomping, c) => do
    let (indent, c) ← indentation? c
    return (chomping, indent, c)
  | none => do
    let (indent, c) ← indentation? c
    match indent, chomping? c with
    | some _, some (chomping, c) => return (chomping, indent, c)
    | _, _ => return (.clip, indent, c)

-- Indentation and empty lines. The indentation of a block is not known yet where `indent` is
-- none; then it is the widest met.
def blockBreaks (indent : Option Nat) (fuel widest : Nat) (breaks : Text) (c : Cursor) :
    Option (Nat × Text × Cursor) :=
  match fuel with
  | 0 => none
  | fuel + 1 =>
    let spaces := (c.rest.takeWhile (· = ' ')).length
    let c := c.skip (match indent with
      | some indent => min spaces (indent - c.column)
      | none => spaces)
    let widest := max widest c.column
    if c.sees isTab && indent.all (c.column < ·) then none
    else if c.sees isBreak then
      let (b, c) := c.takeBreak
      blockBreaks indent fuel widest (breaks ++ b) c
    else some (widest, breaks, c)

def blockLines (literal : Bool) (indent fuel : Nat) (text leading trailing : Text)
    (afterBlank : Bool) (c : Cursor) : Option (Text × Text × Text × Cursor) :=
  match fuel with
  | 0 => none
  | fuel + 1 =>
    if c.column = indent && !c.atEnd then do
      let startsBlank := c.sees isBlank
      let joint :=
        if !literal && leading = ['\n'] && !afterBlank && !startsBlank then
          if trailing.isEmpty then [' '] else []
        else leading
      let (line, c) := c.takeWhile (! isBreak ·)
      let (leading, c) := c.takeBreak
      let text := text ++ joint ++ trailing ++ line
      let (_, trailing, c) ← blockBreaks (some indent) (c.rest.length + 1) 0 [] c
      blockLines literal indent fuel text leading trailing startsBlank c
    else some (text, leading, trailing, c)

def scanBlock (literal : Bool) (level : Nat) (c : Cursor) : Option (Text × Cursor) := do
  let (chomping, increment, c) ← blockHeader c
  let c ← c.skipRestOfLine
  let fuel := c.rest.length + 1
  let given := increment.map (level - 1 + ·)
  let (widest, trailing, c) ← blockBreaks given fuel 0 [] c
  let indent := given.getD (max widest (max level 1))
  let (text, leading, trailing, c) ← blockLines literal indent fuel [] [] trailing false c
  match chomping with
  | .strip => return (text, c)
  | .clip => return (text ++ leading, c)
  | .keep => return (text ++ leading ++ trailing, c)

end SurveyLogic.Yaml
