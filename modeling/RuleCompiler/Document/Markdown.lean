import RuleCompiler.Document.Basic
import RuleCompiler.Text.Blank
import RuleCompiler.Text.Line
import RuleCompiler.Wording
import RuleCompiler.Yaml.Writer

/-!
Reading documents from markdown. A text that starts with a line `---` has a frontmatter, which ends
at the next line that is `---` but for blanks after it; everything after that line is the contents.
The outline holds the headings of the contents that stand outside fences, with their line numbers
in the whole text.
-/

namespace RuleCompiler

inductive DocumentError where
  | frontmatter (path : Path) (cause : Yaml.ReadError)
  | frontmatterShape (path : Path)
  | unterminated (path : Path)
  deriving Repr

def DocumentError.message (wording : Wording) : DocumentError → String
  | .frontmatter path _ => "Invalid frontmatter in " ++ path.text ++ ": " ++ wording.yaml
  | .frontmatterShape path => "Frontmatter in " ++ path.text ++ " is not a mapping"
  | .unterminated path => "Unterminated frontmatter block in " ++ path.text

namespace Markdown

/-- A text cut at its frontmatter. `frontmatter` is the text between the two delimiter lines, and
`linesBefore` the number of lines before the contents. -/
structure Parts where
  frontmatter : Option (List Char)
  contents : List Char
  linesBefore : Nat
  deriving DecidableEq, Repr

def dropByteOrderMark : List Char → List Char
  | '\ufeff' :: text => text
  | text => text

/-- The text after a first line `---`. -/
def afterOpener? : List Char → Option (List Char)
  | '-' :: '-' :: '-' :: '\n' :: rest => some rest
  | '-' :: '-' :: '-' :: '\r' :: '\n' :: rest => some rest
  | _ => none

def isCloser (line : List Char) : Bool :=
  Text.trimEnd line = ['-', '-', '-']

/-- The lines before the first closer, and those after it. -/
def cutAtCloser : (lines : List (List Char)) → Option (List (List Char) × List (List Char))
  | [] => none
  | line :: lines =>
      if isCloser line then some ([], lines)
      else (cutAtCloser lines).map fun (before, after) => (line :: before, after)

/-- Cut a text without its byte order mark; nothing when the frontmatter does not end. -/
def split (text : List Char) : Option Parts :=
  match afterOpener? text with
  | none => some { frontmatter := none, contents := text, linesBefore := 0 }
  | some rest =>
      (cutAtCloser (Text.wholeLines rest)).map fun (before, after) =>
        { frontmatter := some before.flatten
          contents := after.flatten
          linesBefore := before.length + 2 }

def isFence (line : List Char) : Bool :=
  Text.startsWith ['\x60', '\x60', '\x60'] (Text.trimStart line)

/-- The level and title of a heading: one to six `#`, a blank, and the rest. -/
def heading? (line : List Char) : Option (Nat × List Char) :=
  let trimmed := Text.trimStart line
  let level := (trimmed.takeWhile (· == '#')).length
  let rest := trimmed.drop level
  if 1 ≤ level ∧ level ≤ 6 ∧ rest.head? = some ' ' then some (level, Text.trim rest) else none

/-- The headings of lines, the first of which has the number `line`. -/
def headings (inFence : Bool) (line : Nat) : (lines : List (List Char)) → List Section
  | [] => []
  | text :: lines =>
      if isFence text then headings (!inFence) (line + 1) lines
      else
        match (if inFence then none else heading? text) with
        | some (level, title) =>
            { title := String.ofList title, level, line } :: headings inFence (line + 1) lines
        | none => headings inFence (line + 1) lines

def outline (parts : Parts) : Outline :=
  { sections := headings false (parts.linesBefore + 1) (Text.bareLines parts.contents) }

/-- The frontmatter as an object; one of blanks alone is empty. -/
def readFrontmatter (yaml : Yaml.Codec) (path : Path) (text : List Char) :
    Except DocumentError Value :=
  if Text.isBlankText text then .ok (.object [])
  else
    match yaml.read (String.ofList text) with
    | .error cause => .error (.frontmatter path cause)
    | .ok datum =>
        match datum.toValue? with
        | some (.object fields) => .ok (.object fields)
        | _ => .error (.frontmatterShape path)

/-- The version that a frontmatter gives, as text or as a number. -/
def version? (frontmatter : Value) : Option String :=
  match frontmatter.get? "version" with
  | some (.string text) => some text
  | some (.number number) => some number.text
  | _ => none

end Markdown

/-- The document that a markdown file holds, its frontmatter as the codec reads it. Its id is the
stem of the file name. -/
def Document.ofMarkdownBy (yaml : Yaml.Codec) (path : Path) (text : String) :
    Except DocumentError Document := do
  match Markdown.split (Markdown.dropByteOrderMark text.toList) with
  | none => throw (.unterminated path)
  | some parts =>
      let frontmatter ← match parts.frontmatter with
        | some raw => Markdown.readFrontmatter yaml path raw
        | none => pure (.object [])
      return {
        source :=
          { id := path.stem?.getD path.text
            path := some path
            contents := String.ofList parts.contents }
        metadata := { frontmatter, version := Markdown.version? frontmatter }
        outline := Markdown.outline parts }

def Document.ofMarkdown (path : Path) (text : String) : Except DocumentError Document :=
  Document.ofMarkdownBy .standard path text

end RuleCompiler
