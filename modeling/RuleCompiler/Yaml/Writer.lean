import RuleCompiler.Yaml.Cursor
import RuleCompiler.Yaml.Datum
import RuleCompiler.Yaml.Plain

/-!
Writing YAML: mappings of texts and flags, one entry on a line. A text is written plain if it then
reads back as the same text, else in single quotes, and in double quotes only where characters must
be escaped. A text of several lines is a literal block where that keeps it. Writing and reading together
are a codec.
-/

namespace RuleCompiler.Yaml

def isPrintable (c : Char) : Bool :=
  let code := c.toNat
  code == 0xA || (0x20 ≤ code && code ≤ 0x7E) ||
    (0xA0 ≤ code && code ≠ 0xFEFF && code ≠ 0xFFFE && code ≠ 0xFFFF)

/-- Some character of the first kind stands right before one of the second. -/
def hasPair (first second : Char → Bool) : List Char → Bool
  | a :: b :: rest => (first a && second b) || hasPair first second (b :: rest)
  | _ => false

def isSpace (c : Char) : Bool :=
  c == ' '

/-- Characters that start something other than a plain text. -/
def isLeadingIndicator (c : Char) : Bool :=
  ['#', ',', '[', ']', '\x7b', '\x7d', '&', '*', '!', '|', '>', '\'', '"', '%', '@', '\x60'].contains c

/-- A mark inside a text that would be read as the end of a key or the start of a comment. -/
def hasInnerIndicator (afterBlank : Bool) : List Char → Bool
  | [] => false
  | c :: rest =>
      (c == ':' && endsWord rest) || (c == '#' && afterBlank) ||
        hasInnerIndicator (isSpaceOrTab c || isBreak c) rest

/-- Read plain, the text would be taken for something else. -/
def hasIndicator : List Char → Bool
  | [] => false
  | c :: rest =>
      ['-', '-', '-'].isPrefixOf (c :: rest) || ['.', '.', '.'].isPrefixOf (c :: rest) ||
        isLeadingIndicator c || ((c == '?' || c == ':' || c == '-') && endsWord rest) ||
        hasInnerIndicator (isSpaceOrTab c || isBreak c) rest

/-- Blanks and breaks at the ends, which only quotes keep. -/
def hasLooseEnds (text : List Char) : Bool :=
  let isLoose := fun c => isSpace c || isBreak c
  text.head?.any isLoose || text.getLast?.any isLoose

/-- Characters that only double quotes keep. -/
def needsEscapes (text : List Char) : Bool :=
  !text.all isPrintable || hasPair isSpace isBreak text

def plainKeeps (text : List Char) : Bool :=
  !needsEscapes text && !hasLooseEnds text && !text.any isBreak && !hasIndicator text

def singleQuotesKeep (text : List Char) : Bool :=
  !needsEscapes text && !hasPair isBreak isSpace text

def literalKeeps (text : List Char) : Bool :=
  !needsEscapes text && !text.getLast?.any isSpace

/-- Read plain, the text would be no text, or other readers would take it for a number. -/
def isMistakable (text : List Char) : Bool :=
  plainMeaning text ≠ .text || isZeroLed text

/-! ### Styles -/

def indentation : List Char :=
  [' ', ' ']

/-- Text in single quotes. `atLineStart` tells that a break came last. -/
def singleQuotedFrom (atLineStart : Bool) : List Char → List Char
  | [] => if atLineStart then indentation else []
  | c :: rest =>
      if isBreak c then c :: singleQuotedFrom true rest
      else
        (if atLineStart then indentation else []) ++ (if c == '\'' then ['\'', '\''] else [c]) ++
          singleQuotedFrom false rest

def singleQuoted (text : List Char) : List Char :=
  '\'' :: singleQuotedFrom false text ++ ['\'']

/-- The number in hexadecimal digits, so many, in upper case. -/
def upperHex (value count : Nat) : List Char :=
  (Text.hexDigits value count).map Char.toUpper

def escapeName? (c : Char) : Option Char :=
  [('\x00', '0'), ('\x07', 'a'), ('\x08', 'b'), ('\t', 't'), ('\n', 'n'), ('\x0b', 'v'),
   ('\x0c', 'f'), ('\r', 'r'), ('\x1b', 'e'), ('"', '"'), ('\\', '\\'), ('\u0085', 'N'),
   ('\u00a0', '_'), ('\u2028', 'L'), ('\u2029', 'P')].lookup c

def doubleQuotedChar (c : Char) : List Char :=
  if isPrintable c && !isBreak c && c != '"' && c != '\\' then [c]
  else
    match escapeName? c with
    | some name => ['\\', name]
    | none =>
        if c.toNat ≤ 0xFF then '\\' :: 'x' :: upperHex c.toNat 2
        else if c.toNat ≤ 0xFFFF then '\\' :: 'u' :: upperHex c.toNat 4
        else '\\' :: 'U' :: upperHex c.toNat 8

def doubleQuoted (text : List Char) : List Char :=
  '"' :: text.flatMap doubleQuotedChar ++ ['"']

/-- What the head of a literal block says about the breaks at the end of the text: `-` for none and
`+` for more than one. -/
def chompMark (text : List Char) : List Char :=
  match text.reverse with
  | [] => ['-']
  | last :: before =>
      if !isBreak last then ['-']
      else if before.isEmpty || before.head?.any isBreak then ['+']
      else []

def literalLines (atLineStart : Bool) : List Char → List Char
  | [] => if atLineStart then [] else ['\n']
  | c :: rest =>
      if isBreak c then c :: literalLines true rest
      else (if atLineStart then indentation else []) ++ c :: literalLines false rest

/-- A literal block with its head. The indentation is told where the text starts with blanks. -/
def literalBlock (text : List Char) : List Char :=
  let indentMark := if text.head?.any fun c => isSpace c || isBreak c then ['2'] else []
  '|' :: indentMark ++ chompMark text ++ '\n' :: literalLines true text

/-! ### Entries -/

inductive Entry where
  | text (text : String)
  | flag (value : Bool)
  deriving DecidableEq, Repr

/-- A text as the value of an entry, with the end of the last line. -/
def textLines (text : List Char) : List Char :=
  if text.contains '\n' then
    if literalKeeps text then literalBlock text else doubleQuoted text ++ ['\n']
  else if plainKeeps text && !isMistakable text then text ++ ['\n']
  else if singleQuotesKeep text then singleQuoted text ++ ['\n']
  else doubleQuoted text ++ ['\n']

def Entry.lines : Entry → String
  | .text content => String.ofList (textLines content.toList)
  | .flag value => if value then "true\n" else "false\n"

/-- Entries under keys that can be written plain, in order. -/
def mappingText (entries : List (String × Entry)) : String :=
  String.join (entries.map fun (key, entry) => key ++ ": " ++ entry.lines)

/-! ### Codecs -/

/-- What a frontmatter depends on: the mapping that is written for entries, and the datum that is
read from a text. -/
structure Codec where
  write : List (String × Entry) → String
  read : String → Except ReadError Datum

/-- The codec that writes and reads as this library does. -/
def Codec.standard : Codec where
  write := mappingText
  read := Yaml.read

end RuleCompiler.Yaml
