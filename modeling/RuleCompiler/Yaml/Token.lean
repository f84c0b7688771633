import RuleCompiler.Yaml.Scalar

/-!
The tokens of a YAML text. Indentation becomes tokens of its own: a block collection starts where a
line is indented deeper and ends where one is indented less. A mapping key is recognized by the
colon that follows it, so the token that announces a key is put in front of tokens already read.
-/

namespace RuleCompiler.Yaml

inductive Token where
  | streamEnd
  | versionDirective (major minor : Nat)
  | tagDirective (handle tagStart : String)
  | documentStart
  | documentEnd
  | blockSequenceStart
  | blockMappingStart
  | blockEnd
  | flowSequenceStart
  | flowSequenceEnd
  | flowMappingStart
  | flowMappingEnd
  | blockEntry
  | flowEntry
  | key
  | value
  | alias (name : String)
  | anchor (name : String)
  | tag (handle suffix : String)
  | scalar (text : String) (isPlain : Bool)
  deriving DecidableEq, Repr

/-- A place where a key may have started: how many tokens stood before it, and where it was. A key
that starts at the indentation of its block is required to be one. -/
structure KeyPlace where
  tokenNumber : Nat
  required : Bool
  index : Nat
  line : Nat
  column : Nat
  deriving Repr

structure Scanner where
  cursor : Cursor
  /-- The tokens so far, the last first. -/
  tokens : List Token := []
  count : Nat := 0
  /-- The column of the block around the cursor, if there is one, and those further out. -/
  indent : Option Nat := none
  indents : List (Option Nat) := []
  /-- The possible key of the innermost brackets, and those further out; one for each level. -/
  key : Option KeyPlace := none
  keys : List (Option KeyPlace) := []
  keyAllowed : Bool := true
  deriving Repr

namespace Scanner

def inFlow (s : Scanner) : Bool :=
  !s.keys.isEmpty

def emit (s : Scanner) (token : Token) : Scanner :=
  { s with tokens := token :: s.tokens, count := s.count + 1 }

/-- Put a token in front of the tokens from `number` on. -/
def insertAt (s : Scanner) (number : Nat) (token : Token) : Scanner :=
  let later := s.count - number
  { s with
    tokens := s.tokens.take later ++ token :: s.tokens.drop later
    count := s.count + 1 }

def isDeeper (indent : Option Nat) (column : Nat) : Bool :=
  match indent with
  | none => true
  | some current => current < column

/-- Start a block collection at a column that is deeper than the block around it; `number` tells
in front of which token. -/
def openBlock (s : Scanner) (column number : Nat) (token : Token) : Scanner :=
  if s.inFlow || !isDeeper s.indent column then s
  else { s with indent := some column, indents := s.indent :: s.indents }.insertAt number token

/-- End the blocks that are deeper than `column`. -/
def closeBlocksFrom (column : Option Nat) (s : Scanner) : (indents : List (Option Nat)) → Scanner
  | [] => { s with indents := [] }
  | outer :: indents =>
      let deeper : Bool := match s.indent, column with
        | some current, some column => column < current
        | some _, none => true
        | none, _ => false
      if deeper then
        closeBlocksFrom column ({ s with indent := outer }.emit .blockEnd) indents
      else { s with indents := outer :: indents }

def closeBlocks (s : Scanner) (column : Option Nat) : Scanner :=
  if s.inFlow then s else closeBlocksFrom column s s.indents

/-- Give up the possible key at this level; a required one cannot be given up. -/
def dropKey (s : Scanner) : Except ReadError Scanner :=
  match s.key with
  | some place => if place.required then .error .missingColon else .ok { s with key := none }
  | none => .ok s

/-- Remember the cursor as the start of a possible key. -/
def saveKey (s : Scanner) : Except ReadError Scanner := do
  if !s.keyAllowed then return s
  let s ← s.dropKey
  let place : KeyPlace :=
    { tokenNumber := s.count
      required := !s.inFlow && s.indent == some s.cursor.column
      index := s.cursor.index
      line := s.cursor.line
      column := s.cursor.column }
  return { s with key := some place }

def maxKeyLength : Nat := 1024

/-- A key ends on its line and is not too long; a place that is past that is no key. -/
def refreshKey (cursor : Cursor) (key : Option KeyPlace) :
    Except ReadError (Option KeyPlace) :=
  match key with
  | some place =>
      if place.line < cursor.line || place.index + maxKeyLength < cursor.index then
        if place.required then .error .missingColon else .ok none
      else .ok (some place)
  | none => .ok none

def refreshKeys (s : Scanner) : Except ReadError Scanner := do
  let keys ← s.keys.mapM (refreshKey s.cursor)
  let key ← refreshKey s.cursor s.key
  return { s with key, keys }

/-- Pass blanks, comments and breaks. A tab does not indent: it is passed only inside brackets or
where no key can start. -/
def skipToToken (fuel : Nat) (s : Scanner) : Scanner :=
  match fuel with
  | 0 => s
  | fuel + 1 =>
      let cursor := s.cursor
      let cursor := if cursor.index == 0 && cursor.peek? == some '\ufeff' then cursor.skip else cursor
      let tabs := s.inFlow || !s.keyAllowed
      let cursor := (cursor.takeWhile fun c => c == ' ' || (tabs && c == '\t')).2
      let cursor := if cursor.peek? == some '#' then cursor.skipToLineEnd else cursor
      match cursor.peek? with
      | some c =>
          if isBreak c then
            skipToToken fuel
              { s with cursor := cursor.takeBreak.2, keyAllowed := s.keyAllowed || !s.inFlow }
          else { s with cursor }
      | none => { s with cursor }

/-- Up to nine digits of a version number. -/
def takeVersionNumber (cursor : Cursor) : Except ReadError (Nat × Cursor) :=
  let (digits, next) := cursor.takeWhile Char.isDigit
  if digits.isEmpty || digits.length > 9 then .error .badDirective
  else .ok (Text.decimalValue digits, next)

/-- A tag handle: `!`, or `!` and word characters and `!`. The second form may lack its end where
the text is not a handle after all. -/
def takeHandle (inDirective : Bool) (cursor : Cursor) : Except ReadError (String × Cursor) :=
  if cursor.peek? != some '!' then .error .badTag
  else
    let (word, next) := cursor.skip.takeWhile isWordChar
    if next.peek? == some '!' then .ok (String.ofList ('!' :: word ++ ['!']), next.skip)
    else if inDirective && !word.isEmpty then .error .badTag
    else .ok (String.ofList ('!' :: word), next)

/-- The characters of tags, `%` apart; the brackets and the comma only where allowed. -/
def isTagChar (all : Bool) (c : Char) : Bool :=
  isWordChar c || c == ';' || c == '/' || c == '?' || c == ':' || c == '@' || c == '&' ||
    c == '=' || c == '+' || c == '$' || c == '.' || c == '!' || c == '~' || c == '*' ||
    c == '\'' || c == '(' || c == ')' || (all && (c == ',' || c == '[' || c == ']'))

/-- How many bytes a character takes that starts with this one. -/
def utf8Width (byte : Nat) : Nat :=
  if byte < 0x80 then 1
  else if 0xC0 ≤ byte ∧ byte < 0xE0 then 2
  else if 0xE0 ≤ byte ∧ byte < 0xF0 then 3
  else if 0xF0 ≤ byte ∧ byte < 0xF8 then 4
  else 0

/-- `count` bytes, each written as `%` and two digits. -/
def takePercentBytes (cursor : Cursor) : (count : Nat) → Except ReadError (List UInt8 × Cursor)
  | 0 => .ok ([], cursor)
  | count + 1 =>
      match cursor.rest with
      | '%' :: high :: low :: _ =>
          match Text.hexNumber? [high, low] with
          | some byte => do
              let (bytes, next) ← takePercentBytes (cursor.skipMany 3) count
              return (UInt8.ofNat byte :: bytes, next)
          | none => .error .badTag
      | _ => .error .badTag

def takePercentChar (cursor : Cursor) : Except ReadError (List Char × Cursor) := do
  let (first, _) ← takePercentBytes cursor 1
  let width := utf8Width (first.headD 0).toNat
  if width = 0 then throw .badTag
  let (bytes, next) ← takePercentBytes cursor width
  match String.fromUTF8? (ByteArray.mk bytes.toArray) with
  | some text => return (text.toList, next)
  | none => throw .badTag

def takeTagText (all : Bool) (fuel : Nat) (cursor : Cursor) :
    Except ReadError (List Char × Cursor) :=
  match fuel with
  | 0 => .ok ([], cursor)
  | fuel + 1 => do
      let (run, cursor) := cursor.takeWhile (isTagChar all)
      if cursor.peek? != some '%' then return (run, cursor)
      let (decoded, cursor) ← takePercentChar cursor
      let (more, cursor) ← takeTagText all fuel cursor
      return (run ++ decoded ++ more, cursor)

def takeSuffix (all : Bool) (cursor : Cursor) : Except ReadError (String × Cursor) := do
  let (text, next) ← takeTagText all (cursor.rest.length + 1) cursor
  if text.isEmpty then throw .badTag
  return (String.ofList text, next)

def endDirective (cursor : Cursor) : Except ReadError Cursor := do
  let cursor := cursor.skipBlanks
  let cursor := if cursor.peek? == some '#' then cursor.skipToLineEnd else cursor
  if !endsLine cursor.rest then throw .badDirective
  return cursor.takeBreak.2

/-- `%YAML` with a version or `%TAG` with a handle and the start of its tags. -/
def scanDirective (cursor : Cursor) : Except ReadError (Token × Cursor) := do
  let (name, cursor) := cursor.skip.takeWhile isWordChar
  if name.isEmpty || !endsWord cursor.rest then throw .badDirective
  let cursor := cursor.skipBlanks
  match String.ofList name with
  | "YAML" =>
      let (major, cursor) ← takeVersionNumber cursor
      if cursor.peek? != some '.' then throw .badDirective
      let (minor, cursor) ← takeVersionNumber cursor.skip
      return (.versionDirective major minor, ← endDirective cursor)
  | "TAG" =>
      let (handle, cursor) ← takeHandle true cursor
      if !((cursor.peek?.map isSpaceOrTab).getD false) then throw .badDirective
      let (tagStart, cursor) ← takeSuffix true cursor.skipBlanks
      if !endsWord cursor.rest then throw .badDirective
      return (.tagDirective handle tagStart, ← endDirective cursor)
  | _ => throw .badDirective

def scanName (cursor : Cursor) : Except ReadError (String × Cursor) := do
  let (name, next) := cursor.skip.takeWhile isWordChar
  let ends := endsWord next.rest ||
    (match next.peek? with
      | some c => ['?', ':', ',', ']', '}', '%', '@', '`'].contains c
      | none => true)
  if name.isEmpty || !ends then throw .badToken
  return (String.ofList name, next)

/-- A tag: verbatim between angle brackets, with a handle, or after a single `!`. -/
def scanTag (inFlow : Bool) (cursor : Cursor) : Except ReadError (Token × Cursor) := do
  let (token, next) ←
    if (cursor.rest.drop 1).head? == some '<' then do
      let (suffix, next) ← takeSuffix true (cursor.skipMany 2)
      if next.peek? != some '>' then throw .badTag
      pure (Token.tag "" suffix, next.skip)
    else do
      let (handle, next) ← takeHandle false cursor
      let chars := handle.toList
      if chars.length > 1 && chars.getLast? == some '!' then
        let (suffix, next) ← takeSuffix false next
        pure (Token.tag handle suffix, next)
      else
        let (more, next) ← takeTagText false (next.rest.length + 1) next
        let suffix := String.ofList (chars.drop 1 ++ more)
        pure (if suffix = "" then Token.tag "" "!" else Token.tag "!" suffix, next)
  if endsWord next.rest || (inFlow && next.peek? == some ',') then return (token, next)
  else throw .badTag

def startsPlain (inFlow : Bool) (c : Char) (rest : List Char) : Bool :=
  let spaced := match rest with
    | next :: _ => isSpaceOrTab next
    | [] => false
  if c == '-' then !spaced
  else if c == '?' || c == ':' then !inFlow && !endsWord rest
  else
    !([',', '[', ']', '{', '}', '#', '&', '*', '!', '|', '>', '\'', '"', '%', '@', '`'].contains c ||
      isSpaceOrTab c || isBreak c)

def scanBlockEntry (s : Scanner) : Except ReadError Scanner := do
  let s ←
    if s.inFlow then pure s
    else if !s.keyAllowed then throw .badIndentation
    else pure (s.openBlock s.cursor.column s.count .blockSequenceStart)
  let s ← s.dropKey
  return { s with keyAllowed := true, cursor := s.cursor.skip }.emit .blockEntry

def scanKey (s : Scanner) : Except ReadError Scanner := do
  let s ←
    if s.inFlow then pure s
    else if !s.keyAllowed then throw .badIndentation
    else pure (s.openBlock s.cursor.column s.count .blockMappingStart)
  let s ← s.dropKey
  return { s with keyAllowed := !s.inFlow, cursor := s.cursor.skip }.emit .key

/-- A `:` before a value. A possible key on the same level is one. -/
def scanValue (s : Scanner) : Except ReadError Scanner := do
  let s ←
    match s.key with
    | some place =>
        let s := s.insertAt place.tokenNumber .key
        let s := s.openBlock place.column place.tokenNumber .blockMappingStart
        pure { s with key := none, keyAllowed := false }
    | none =>
        if s.inFlow then pure { s with keyAllowed := false }
        else if !s.keyAllowed then throw .badIndentation
        else
          let s := s.openBlock s.cursor.column s.count .blockMappingStart
          pure { s with keyAllowed := true }
  return { s with cursor := s.cursor.skip }.emit .value

def scanFlowStart (s : Scanner) (token : Token) : Except ReadError Scanner := do
  let s ← s.saveKey
  let inner :=
    { s with key := none, keys := s.key :: s.keys, keyAllowed := true, cursor := s.cursor.skip }
  return inner.emit token

def scanFlowEnd (s : Scanner) (token : Token) : Except ReadError Scanner := do
  let s ← s.dropKey
  let (key, keys) := match s.keys with
    | outer :: keys => (outer, keys)
    | [] => (s.key, [])
  return { s with key, keys, keyAllowed := false, cursor := s.cursor.skip }.emit token

/-- Close all blocks before a directive or a document mark. -/
def endBlocks (s : Scanner) : Except ReadError Scanner := do
  let s ← (s.closeBlocks none).dropKey
  return { s with keyAllowed := false }

/-- The token at the cursor, which stands at no blank; none at the end of the text. -/
def scanToken (s : Scanner) : Except ReadError Scanner :=
  let cursor := s.cursor
  match cursor.rest with
  | [] => .ok s
  | c :: rest =>
      if cursor.column == 0 && c == '%' then do
        let s ← s.endBlocks
        let (token, next) ← scanDirective cursor
        return { s with cursor := next }.emit token
      else if cursor.atDocumentMark then do
        let s ← s.endBlocks
        let token := if c == '-' then Token.documentStart else .documentEnd
        return { s with cursor := cursor.skipMany 3 }.emit token
      else if c == '[' then s.scanFlowStart .flowSequenceStart
      else if c == '{' then s.scanFlowStart .flowMappingStart
      else if c == ']' then s.scanFlowEnd .flowSequenceEnd
      else if c == '}' then s.scanFlowEnd .flowMappingEnd
      else if c == ',' then do
        let s ← s.dropKey
        return { s with keyAllowed := true, cursor := cursor.skip }.emit .flowEntry
      else if c == '-' && endsWord rest then s.scanBlockEntry
      else if c == '?' && (s.inFlow || endsWord rest) then s.scanKey
      else if c == ':' && (s.inFlow || endsWord rest) then s.scanValue
      else if c == '*' || c == '&' then do
        let s ← s.saveKey
        let (name, next) ← scanName cursor
        let token := if c == '*' then Token.alias name else .anchor name
        return { s with keyAllowed := false, cursor := next }.emit token
      else if c == '!' then do
        let s ← s.saveKey
        let (token, next) ← scanTag s.inFlow cursor
        return { s with keyAllowed := false, cursor := next }.emit token
      else if (c == '|' || c == '>') && !s.inFlow then do
        let s ← s.dropKey
        let (text, next) ← scanBlock (c == '|') s.indent cursor
        return { s with keyAllowed := true, cursor := next }.emit (.scalar text false)
      else if c == '\'' || c == '"' then do
        let s ← s.saveKey
        let (text, next) ← scanQuoted (c == '\'') cursor
        return { s with keyAllowed := false, cursor := next }.emit (.scalar text false)
      else if startsPlain s.inFlow c rest then do
        let s ← s.saveKey
        let indent := match s.indent with
          | some column => column + 1
          | none => 0
        let (text, broken, next) ← scanPlain s.inFlow indent cursor
        return { s with keyAllowed := broken, cursor := next }.emit (.scalar text true)
      else .error .badToken

/-- All tokens from the cursor on. Every token takes at least one character. -/
def run (fuel : Nat) (s : Scanner) : Except ReadError Scanner :=
  match fuel with
  | 0 => .error .badToken
  | fuel + 1 => do
      let s := s.skipToToken (s.cursor.rest.length + 1)
      let s ← s.refreshKeys
      let s := s.closeBlocks (some s.cursor.column)
      if s.cursor.atEnd then
        let s := s.closeBlocks none
        let s ← s.dropKey
        return s.emit .streamEnd
      else run fuel (← s.scanToken)

end Scanner

def Token.scan (text : List Char) : Except ReadError (List Token) := do
  if !text.all isAllowed then throw .controlCharacter
  let s ← Scanner.run (text.length + 2) { cursor := { rest := text } }
  return s.tokens.reverse

end RuleCompiler.Yaml
