import RuleCompiler.Text.Piece

/-!
Pages: rendered text as it grows. While an indentation is in force every line that is begun is
indented, except that the end of a line is never preceded by it.
-/

namespace RuleCompiler.Template

/-- Markup characters as they are written in escaped text. -/
def escapedChar (c : Char) : String :=
  match c with
  | '<' => "&lt;"
  | '>' => "&gt;"
  | '"' => "&quot;"
  | '&' => "&amp;"
  | '\'' => "&#x27;"
  | '\x60' => "&#x60;"
  | '=' => "&#x3D;"
  | c => String.singleton c

def escaped (text : String) : String :=
  String.join (text.toList.map escapedChar)

structure Page where
  text : String := ""
  /-- The next text begins a line that is to be indented. -/
  indentsNext : Bool := false
  /-- The last text ended a line. -/
  atLineStart : Bool := false
  /-- Something was written since this was last cleared. -/
  isTouched : Bool := false

def isLineBreak (c : Char) : Bool :=
  c == '\n' || c == '\r'

/-- Indent every line after the first; nothing follows a line end at the end of the text. -/
def indentedLines (indent : List Char) : List Char → List Char
  | [] => []
  | ['\n'] => ['\n']
  | '\n' :: rest => '\n' :: indent ++ indentedLines indent rest
  | c :: rest => c :: indentedLines indent rest

namespace Page

def write (page : Page) (indent : String) (text : String) : Page :=
  let chars := text.toList
  match chars.head?, chars.getLast? with
  | some first, some last =>
      let lead := if page.indentsNext && !isLineBreak first then indent else ""
      let lines := if indent = "" then text
        else String.ofList (indentedLines indent.toList chars)
      { text := page.text ++ lead ++ lines
        indentsNext := isLineBreak last
        atLineStart := isLineBreak last
        isTouched := true }
  | _, _ => page

/-- Let a part of the page be written by `write`. When it begins to write, its first line is
indented if `indents`; when it writes nothing, what comes after it goes on as if it was not there. -/
def part {ε : Type} (page : Page) (indents : Bool) (write : Page → Except ε Page) :
    Except ε Page := do
  let written ← write { page with indentsNext := indents, isTouched := false }
  if written.isTouched then return { written with indentsNext := written.atLineStart }
  else return { written with indentsNext := page.indentsNext, isTouched := page.isTouched }

end Page

end RuleCompiler.Template
