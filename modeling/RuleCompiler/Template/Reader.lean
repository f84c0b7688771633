import RuleCompiler.Template.Tag
import RuleCompiler.Text.Blank

/-!
Reading templates: cut a text at its tags, settle the blanks around them, and nest the blocks.

A tag that stands alone on its line takes the line with it: the blanks before it and the line end
after it are not written. A tilde drops all blanks and line ends on its side instead. Doubled braces
after a backslash are text.
-/

namespace RuleCompiler.Template

structure Stretch where
  text : List Char
  tag : Tag
  deriving Repr

/-- The text up to the next tag, and the rest. A backslash before doubled braces makes them text;
of several backslashes there one is taken away and the braces are a tag. `inRun` tells that such
backslashes are being read. -/
def plainText (inRun : Bool) : List Char → List Char × List Char
  | '\x7b' :: '\x7b' :: rest => ([], '\x7b' :: '\x7b' :: rest)
  | '\\' :: '\x7b' :: '\x7b' :: rest =>
      if inRun then (['\\'], '\x7b' :: '\x7b' :: rest)
      else
        match rest with
        | '\x7b' :: '\x7b' :: rest =>
            let (text, rest) := plainText false rest
            ('\x7b' :: '\x7b' :: '\x7b' :: '\x7b' :: text, rest)
        | rest =>
            let (text, rest) := plainText false rest
            ('\x7b' :: '\x7b' :: text, rest)
  | '\\' :: rest =>
      let isRun := Text.startsWith ['\x7b', '\x7b'] (rest.dropWhile (· == '\\'))
      if isRun && !inRun then plainText true rest
      else
        let (text, rest) := plainText isRun rest
        ('\\' :: text, rest)
  | c :: rest =>
      let (text, rest) := plainText false rest
      (c :: text, rest)
  | [] => ([], [])

/-- Cut a text at its tags: the stretches, and the text after the last tag. -/
def stretches (fuel : Nat) (source : List Char) :
    Except SyntaxError (List Stretch × List Char) :=
  match fuel with
  | 0 => .ok ([], source)
  | fuel + 1 => do
      let (text, rest) := plainText false source
      if rest.isEmpty then return ([], text)
      match Tag.read rest.length rest with
      | .taken tag rest =>
          let (later, last) ← stretches fuel rest
          return ({ text, tag } :: later, last)
      | .refused => throw (.malformedTag (String.ofList (rest.take 40)))
      | .broken error => throw error

/-! ### Blanks around tags -/

def isInlineBlank (c : Char) : Bool :=
  c == ' ' || c == '\t'

def isLineEnd (c : Char) : Bool :=
  c == '\n' || c == '\r'

/-- Nothing but blanks lies between the start of the line and the end of the text. -/
def endsAtLineStart (isFirst : Bool) (text : List Char) : Bool :=
  match (Text.dropEndWhile isInlineBlank text).getLast? with
  | some c => isLineEnd c
  | none => isFirst

/-- Nothing but blanks lies between the start of the text and the end of the line. -/
def startsAtLineEnd (text : List Char) : Bool :=
  match text.dropWhile isInlineBlank with
  | c :: _ => isLineEnd c
  | [] => false

/-- Drop what is left of a line: blanks and one line end. -/
def dropLineRest (text : List Char) : List Char :=
  match text.dropWhile isInlineBlank with
  | '\r' :: '\n' :: rest => rest
  | '\n' :: rest => rest
  | rest => rest

/-- What the last tag asks of the text after it. -/
structure Pending where
  isFirst : Bool := true
  /-- A tilde drops all blanks. -/
  dropsBlanks : Bool := false
  /-- The tag stood alone on its line. -/
  dropsLine : Bool := false

/-- The text as it is written, and whether the line of the last tag is still to be dropped. Dropped
spaces leave that open. -/
def Pending.settle (pending : Pending) (text : List Char) : List Char × Bool :=
  if text.isEmpty then ([], pending.dropsLine)
  else if pending.dropsBlanks then
    (Text.trimStart text, pending.dropsLine && text.all Rule.isSpace)
  else if pending.dropsLine then (dropLineRest text, false)
  else (text, false)

/-- A tag with the text to write before it, the blanks that indented it, and whether it stood alone
on its line. -/
structure Settled where
  text : List Char
  tag : Tag
  indent : String
  ownLine : Bool

/-- Settle the blanks of all stretches; the last text comes with them. `isPartial` lets the end of
the text end a line. -/
def settle (isPartial : Bool) (last : List Char) (pending : Pending) :
    List Stretch → List Settled × List Char
  | [] => ([], (pending.settle last).1)
  | { text, tag } :: rest =>
      let atEnd := match rest with
        | [] => startsAtLineEnd last || (isPartial && last.isEmpty)
        | next :: _ => startsAtLineEnd next.text
      let ownLine := tag.canOwnLine && atEnd && endsAtLineStart pending.isFirst text
      let (kept, stillDrops) := pending.settle text
      let kept := if tag.trimsBefore then Text.trimEnd kept else kept
      let kept := if ownLine then Text.dropEndWhile isInlineBlank kept else kept
      let indent := if tag.trimsBefore then []
        else (text.reverse.takeWhile isInlineBlank).reverse
      let pending : Pending :=
        { isFirst := false
          dropsBlanks := if tag.isComment then pending.dropsBlanks else tag.trimsAfter
          dropsLine := if tag.canOwnLine then ownLine else stillDrops }
      let (later, lastKept) := settle isPartial last pending rest
      ({ text := kept, tag, indent := String.ofList indent, ownLine } :: later, lastKept)

/-! ### Blocks -/

/-- A block that is not closed yet. `chained` tells that it is the other branch of the one below it
and is closed together with it. -/
structure Frame where
  call : Call
  names : List String
  ownLine : Bool
  chained : Bool
  /-- The body, once another branch has begun. -/
  body : Option (List Node) := none
  /-- The nodes of the branch being read, the last first. -/
  nodes : List Node := []

def Frame.node (frame : Frame) : Node :=
  match frame.body with
  | some body => .block frame.call frame.names frame.ownLine body (some frame.nodes.reverse)
  | none => .block frame.call frame.names frame.ownLine frame.nodes.reverse none

/-- The open blocks, the innermost first, above the nodes outside all blocks. -/
structure Nest where
  frames : List Frame := []
  nodes : List Node := []

def Nest.add (nest : Nest) (node : Node) : Nest :=
  match nest.frames with
  | frame :: frames => { nest with frames := { frame with nodes := node :: frame.nodes } :: frames }
  | [] => { nest with nodes := node :: nest.nodes }

def Nest.push (nest : Nest) (frame : Frame) : Nest :=
  { nest with frames := frame :: nest.frames }

def Nest.switch (nest : Nest) : Except SyntaxError Nest :=
  match nest.frames with
  | [] => .error .strayElse
  | frame :: frames =>
      match frame.body with
      | some _ => .error .strayElse
      | none =>
          .ok { nest with
            frames := { frame with body := some frame.nodes.reverse, nodes := [] } :: frames }

/-- Close the innermost block and those that it is chained to. -/
def closeFrames (name : String) (inner : Option Node) (nodes : List Node) :
    List Frame → Except SyntaxError Nest
  | [] => .error (.strayClose name)
  | frame :: frames =>
      let frame := { frame with nodes := inner.toList ++ frame.nodes }
      if frame.chained then closeFrames name (some frame.node) nodes frames
      else if frame.call.helper = name then
        .ok (Nest.add { frames, nodes } frame.node)
      else .error (.mismatchedClose frame.call.helper name)

def Nest.addText (nest : Nest) (text : List Char) : Nest :=
  if text.isEmpty then nest else nest.add (.text (String.ofList text))

def Nest.take (nest : Nest) (settled : Settled) : Except SyntaxError Nest :=
  let nest := nest.addText settled.text
  match settled.tag.kind with
  | .comment => .ok nest
  | .value plain argument => .ok (nest.add (.value plain argument))
  | .call plain call => .ok (nest.add (.call plain call))
  | .opening call names =>
      .ok (nest.push { call, names, ownLine := settled.ownLine, chained := false })
  | .otherwise => nest.switch
  | .otherwiseCall call names => do
      return (← nest.switch).push { call, names, ownLine := settled.ownLine, chained := true }
  | .closing name => closeFrames name none nest.nodes nest.frames
  | .include name arguments options =>
      .ok (nest.add (.include name arguments options settled.indent settled.ownLine))

def read (isPartial : Bool) (source : String) : Except SyntaxError (List Node) := do
  let chars := source.toList
  let (stretches, last) ← stretches (chars.length + 1) chars
  let (settled, last) := settle isPartial last {} stretches
  let nest ← settled.foldlM Nest.take {}
  let nest := nest.addText last
  match nest.frames with
  | [] => return nest.nodes.reverse
  | frame :: _ => throw (.unclosed frame.call.helper)

end RuleCompiler.Template
