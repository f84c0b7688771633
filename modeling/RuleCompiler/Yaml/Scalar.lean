import RuleCompiler.Text.Numeral
import RuleCompiler.Yaml.Cursor

/-!
Scanning scalars. Plain and quoted scalars fold their line breaks: one break reads as a blank, and
of several the first is dropped. Literal blocks keep every break, folded blocks join lines that
start with no blank, and a chomping mark decides about the breaks at the end.
-/

namespace RuleCompiler.Yaml

/-- Blanks and breaks between two words: the blanks while no break was met, then the first break
and those after it. -/
structure Gap where
  blanks : List Char := []
  first : List Char := []
  more : List Char := []
  broken : Bool := false

def Gap.folded (gap : Gap) : List Char :=
  if gap.broken then
    if gap.first = ['\n'] then (if gap.more.isEmpty then [' '] else gap.more)
    else gap.first ++ gap.more
  else gap.blanks

/-- Pass the blanks and breaks at the cursor. After a break, a tab in a column below `tabLimit` is
refused. -/
def takeGap (tabLimit fuel : Nat) (gap : Gap) (cursor : Cursor) :
    Except ReadError (Gap × Cursor) :=
  match fuel, cursor.peek? with
  | fuel + 1, some c =>
      if isSpaceOrTab c then
        if gap.broken then
          if c == '\t' && cursor.column < tabLimit then .error .badIndentation
          else takeGap tabLimit fuel gap cursor.skip
        else takeGap tabLimit fuel { gap with blanks := gap.blanks ++ [c] } cursor.skip
      else if isBreak c then
        let (meaning, next) := cursor.takeBreak
        if gap.broken then takeGap tabLimit fuel { gap with more := gap.more ++ meaning } next
        else takeGap tabLimit fuel { gap with first := meaning, broken := true } next
      else .ok (gap, cursor)
  | _, _ => .ok (gap, cursor)

/-- A character that ends words inside brackets. -/
def isFlowIndicator (c : Char) : Bool :=
  c == ',' || c == '[' || c == ']' || c == '{' || c == '}'

/-- One word of a plain scalar: up to a blank, a break, a colon before one, or, inside brackets, a
flow indicator. The word is given in reverse. -/
def takePlainWord (inFlow : Bool) (word : List Char) : List Char →
    Except ReadError (List Char × List Char)
  | [] => .ok (word, [])
  | c :: rest =>
      if isSpaceOrTab c || isBreak c then .ok (word, c :: rest)
      else if c == ':' && endsWord rest then .ok (word, c :: rest)
      else if inFlow && c == ':' &&
          (match rest with
            | next :: _ => isFlowIndicator next || next == '?'
            | [] => false) then .error .badScalar
      else if inFlow && isFlowIndicator c then .ok (word, c :: rest)
      else takePlainWord inFlow (c :: word) rest

/-- The rest of a plain scalar after `gap`, its text so far in reverse; also whether the scalar
ended after a break. Lines go on while they are indented to `indent`, or anyhow inside brackets. -/
def plainFrom (inFlow : Bool) (indent fuel : Nat) (text : List Char) (gap : Gap)
    (cursor : Cursor) : Except ReadError (List Char × Bool × Cursor) :=
  match fuel with
  | 0 => .error .badScalar
  | fuel + 1 => do
      if cursor.atDocumentMark || cursor.peek? == some '#' then
        return (text, gap.broken, cursor)
      let (word, _) ← takePlainWord inFlow [] cursor.rest
      let (text, gap) :=
        if word.isEmpty then (text, gap) else (word ++ gap.folded.reverse ++ text, {})
      let cursor := cursor.skipMany word.length
      match cursor.peek? with
      | some c =>
          if isSpaceOrTab c || isBreak c then
            let (gap, cursor) ← takeGap indent fuel gap cursor
            if !inFlow && cursor.column < indent then return (text, gap.broken, cursor)
            else plainFrom inFlow indent fuel text gap cursor
          else return (text, gap.broken, cursor)
      | none => return (text, gap.broken, cursor)

def scanPlain (inFlow : Bool) (indent : Nat) (cursor : Cursor) :
    Except ReadError (String × Bool × Cursor) := do
  let (text, broken, next) ← plainFrom inFlow indent (cursor.rest.length + 2) [] {} cursor
  return (String.ofList text.reverse, broken, next)

def escapedChar? (c : Char) : Option Char :=
  match c with
  | '0' => some '\x00'
  | 'a' => some '\x07'
  | 'b' => some '\x08'
  | 't' | '\t' => some '\t'
  | 'n' => some '\n'
  | 'v' => some '\x0b'
  | 'f' => some '\x0c'
  | 'r' => some '\x0d'
  | 'e' => some '\x1b'
  | ' ' | '"' | '/' | '\\' => some c
  | 'N' => some '\u0085'
  | '_' => some '\u00a0'
  | 'L' => some '\u2028'
  | 'P' => some '\u2029'
  | _ => none

def escapeLength? (c : Char) : Option Nat :=
  match c with
  | 'x' => some 2
  | 'u' => some 4
  | 'U' => some 8
  | _ => none

def charOfHex? (digits : List Char) : Option Char := do
  let code ← Text.hexNumber? digits
  if (0xD800 ≤ code ∧ code ≤ 0xDFFF) ∨ code > 0x10FFFF then none else some (Char.ofNat code)

/-- An escape of a double-quoted scalar, after its backslash: the character and the number of
characters that spell it. -/
def readEscape (text : List Char) : Except ReadError (Char × Nat) :=
  match text with
  | [] => .error .badScalar
  | c :: rest =>
      match escapeLength? c with
      | some length =>
          let digits := rest.take length
          match (if digits.length = length then charOfHex? digits else none) with
          | some named => .ok (named, length + 1)
          | none => .error .badScalar
      | none =>
          match escapedChar? c with
          | some plain => .ok (plain, 1)
          | none => .error .badScalar

/-- One word of a quoted scalar, appended to `text` in reverse, up to a blank, a break, the closing
quote or an escaped break; also whether an escaped break was passed. -/
def takeQuotedWord (single : Bool) (fuel : Nat) (text : List Char) (cursor : Cursor) :
    Except ReadError (List Char × Bool × Cursor) :=
  match fuel, cursor.rest with
  | fuel + 1, c :: rest =>
      if isSpaceOrTab c || isBreak c then .ok (text, false, cursor)
      else if single then
        if c == '\'' then
          match rest with
          | '\'' :: _ => takeQuotedWord single fuel ('\'' :: text) (cursor.skipMany 2)
          | _ => .ok (text, false, cursor)
        else takeQuotedWord single fuel (c :: text) cursor.skip
      else if c == '"' then .ok (text, false, cursor)
      else if c == '\\' then
        match rest with
        | next :: _ =>
            if isBreak next then .ok (text, true, cursor.skip.takeBreak.2)
            else do
              let (plain, length) ← readEscape rest
              takeQuotedWord single fuel (plain :: text) (cursor.skipMany (length + 1))
        | [] => .error .badScalar
      else takeQuotedWord single fuel (c :: text) cursor.skip
  | _, _ => .ok (text, false, cursor)

/-- The rest of a quoted scalar after its opening quote, its text so far in reverse. -/
def quotedFrom (single : Bool) (fuel : Nat) (text : List Char) (cursor : Cursor) :
    Except ReadError (List Char × Cursor) :=
  match fuel with
  | 0 => .error .badScalar
  | fuel + 1 => do
      if cursor.atDocumentMark || cursor.atEnd then throw .badScalar
      let (text, escapedBreak, cursor) ← takeQuotedWord single (fuel + 1) text cursor
      if cursor.peek? == some (if single then '\'' else '"') then
        return (text, cursor.skip)
      let (gap, cursor) ← takeGap 0 (fuel + 1) { broken := escapedBreak } cursor
      quotedFrom single fuel (gap.folded.reverse ++ text) cursor

def scanQuoted (single : Bool) (cursor : Cursor) : Except ReadError (String × Cursor) := do
  let (text, next) ← quotedFrom single (cursor.rest.length + 1) [] cursor.skip
  return (String.ofList text.reverse, next)

inductive Chomping where
  | clip
  | strip
  | keep
  deriving DecidableEq, Repr

def chompingOf? (c : Char) : Option Chomping :=
  if c == '+' then some .keep else if c == '-' then some .strip else none

/-- The marks after the indicator of a block scalar, in either order: chomping, and an increment of
the indentation between one and nine. -/
def takeBlockHeader (cursor : Cursor) : Except ReadError (Chomping × Nat × Cursor) :=
  let digit? := fun (cursor : Cursor) =>
    match cursor.peek? with
    | some c => if c.isDigit then some (Text.digitValue c) else none
    | none => none
  match cursor.peek?.bind chompingOf? with
  | some chomping =>
      match digit? cursor.skip with
      | some 0 => .error .badScalar
      | some increment => .ok (chomping, increment, cursor.skip.skip)
      | none => .ok (chomping, 0, cursor.skip)
  | none =>
      match digit? cursor with
      | some 0 => .error .badScalar
      | some increment =>
          match cursor.skip.peek?.bind chompingOf? with
          | some chomping => .ok (chomping, increment, cursor.skip.skip)
          | none => .ok (.clip, increment, cursor.skip)
      | none => .ok (.clip, 0, cursor)

/-- Pass blank lines and the indentation of the next line, up to `indent` blanks, or all of them
while `indent` is not known. Gives the breaks, and the widest indentation met. -/
def takeBlockBreaks (indent fuel widest : Nat) (breaks : List Char) (cursor : Cursor) :
    Except ReadError (List Char × Nat × Cursor) :=
  match fuel with
  | 0 => .ok (breaks, widest, cursor)
  | fuel + 1 =>
      let width := if indent = 0 then cursor.rest.length else indent - cursor.column
      let run := (cursor.rest.take width).takeWhile (· == ' ')
      let cursor := cursor.skipMany run.length
      let widest := max widest cursor.column
      match cursor.peek? with
      | some c =>
          if c == '\t' && (indent = 0 || cursor.column < indent) then .error .badIndentation
          else if isBreak c then
            let (meaning, next) := cursor.takeBreak
            takeBlockBreaks indent fuel widest (breaks ++ meaning) next
          else .ok (breaks, widest, cursor)
      | none => .ok (breaks, widest, cursor)

/-- The text of a block scalar while it is read, in reverse. -/
structure BlockText where
  text : List Char := []
  lastBreak : List Char := []
  trailing : List Char := []
  leadingBlank : Bool := false

/-- The lines of a block scalar from the cursor on, each indented to `indent`. -/
def blockLines (literal : Bool) (indent fuel : Nat) (block : BlockText) (cursor : Cursor) :
    Except ReadError (BlockText × Cursor) :=
  match fuel with
  | 0 => .ok (block, cursor)
  | fuel + 1 =>
      if cursor.column != indent || cursor.atEnd then .ok (block, cursor)
      else do
        let startsBlank := (cursor.peek?.map isSpaceOrTab).getD false
        let joint :=
          if !literal && block.lastBreak == ['\n'] && !block.leadingBlank && !startsBlank then
            if block.trailing.isEmpty then [' '] else []
          else block.lastBreak
        let (line, cursor) := cursor.takeWhile fun c => !isBreak c
        let (lastBreak, cursor) := cursor.takeBreak
        let (trailing, _, cursor) ← takeBlockBreaks indent (fuel + 1) 0 [] cursor
        let text := line.reverse ++ block.trailing.reverse ++ joint.reverse ++ block.text
        blockLines literal indent fuel
          { text, lastBreak, trailing, leadingBlank := startsBlank } cursor

/-- A block scalar whose indicator is at the cursor. `parent` is the indentation of the block
around it, if there is one. -/
def scanBlock (literal : Bool) (parent : Option Nat) (cursor : Cursor) :
    Except ReadError (String × Cursor) := do
  let fuel := cursor.rest.length + 1
  let (chomping, increment, cursor) ← takeBlockHeader cursor.skip
  let cursor := cursor.skipBlanks
  let cursor := if cursor.peek? == some '#' then cursor.skipToLineEnd else cursor
  if !endsLine cursor.rest then throw .badScalar
  let cursor := cursor.takeBreak.2
  let given := if increment = 0 then 0 else parent.getD 0 + increment
  let (breaks, widest, cursor) ← takeBlockBreaks given fuel 0 [] cursor
  let least := max 1 (match parent with
    | some column => column + 1
    | none => 0)
  let indent := if given = 0 then max widest least else given
  let (block, cursor) ← blockLines literal indent fuel { trailing := breaks } cursor
  let ending := match chomping with
    | .strip => []
    | .clip => block.lastBreak
    | .keep => block.lastBreak ++ block.trailing
  return (String.ofList (block.text.reverse ++ ending), cursor)

end RuleCompiler.Yaml
