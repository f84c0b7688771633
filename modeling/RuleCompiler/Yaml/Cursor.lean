import RuleCompiler.Text.Numeral

/-!
A position in a YAML text. Columns count characters from the start of the line; a line ends at any
of the five break characters, and a carriage return with a line feed is one break. The helpers that
read a break give its meaning: a line feed, except for the two Unicode separators.
-/

namespace RuleCompiler.Yaml

def isBreak (c : Char) : Bool :=
  c == '\n' || c == '\r' || c == '\u0085' || c == '\u2028' || c == '\u2029'

def isSpaceOrTab (c : Char) : Bool :=
  c == ' ' || c == '\t'

def endsWord : List Char → Bool
  | [] => true
  | c :: _ => isSpaceOrTab c || isBreak c

def endsLine : List Char → Bool
  | [] => true
  | c :: _ => isBreak c

/-- The characters that a YAML text may hold. -/
def isAllowed (c : Char) : Bool :=
  let code := c.toNat
  code == 0x9 || code == 0xA || code == 0xD || (0x20 ≤ code && code ≤ 0x7E) || code == 0x85 ||
    (0xA0 ≤ code && code ≤ 0xD7FF) || (0xE000 ≤ code && code ≤ 0xFFFD) || 0x10000 ≤ code

/-- Letters, digits, `_` and `-`: the characters of anchors and of tag handles. -/
def isWordChar (c : Char) : Bool :=
  c.isAlphanum || c == '_' || c == '-'

/-- Where the scanner stands, and the text from there. -/
structure Cursor where
  rest : List Char
  index : Nat := 0
  line : Nat := 0
  column : Nat := 0
  deriving Repr

namespace Cursor

def peek? (cursor : Cursor) : Option Char :=
  cursor.rest.head?

def atEnd (cursor : Cursor) : Bool :=
  cursor.rest.isEmpty

def skip (cursor : Cursor) : Cursor :=
  match cursor.rest with
  | [] => cursor
  | _ :: rest => { cursor with rest, index := cursor.index + 1, column := cursor.column + 1 }

def skipMany (cursor : Cursor) (count : Nat) : Cursor :=
  { cursor with
    rest := cursor.rest.drop count
    index := cursor.index + count
    column := cursor.column + count }

/-- Pass one break; what it stands for, and the position after it. -/
def takeBreak (cursor : Cursor) : List Char × Cursor :=
  match cursor.rest with
  | '\r' :: '\n' :: rest =>
      (['\n'], { rest, index := cursor.index + 2, line := cursor.line + 1, column := 0 })
  | c :: rest =>
      if isBreak c then
        let meaning := if c == '\u2028' || c == '\u2029' then c else '\n'
        ([meaning], { rest, index := cursor.index + 1, line := cursor.line + 1, column := 0 })
      else ([], cursor)
  | [] => ([], cursor)

/-- Pass the longest run of characters that satisfy `wanted`, none of them a break. -/
def takeWhile (cursor : Cursor) (wanted : Char → Bool) : List Char × Cursor :=
  let run := cursor.rest.takeWhile wanted
  (run, cursor.skipMany run.length)

def skipBlanks (cursor : Cursor) : Cursor :=
  (cursor.takeWhile isSpaceOrTab).2

def skipToLineEnd (cursor : Cursor) : Cursor :=
  (cursor.takeWhile fun c => !isBreak c).2

/-- `---` or `...` at the start of a line, with nothing right after it. -/
def atDocumentMark (cursor : Cursor) : Bool :=
  cursor.column == 0 &&
    match cursor.rest with
    | '-' :: '-' :: '-' :: rest => endsWord rest
    | '.' :: '.' :: '.' :: rest => endsWord rest
    | _ => false

end Cursor

inductive ReadError where
  | controlCharacter
  | badToken
  | badScalar
  | badTag
  | badDirective
  | badIndentation
  | missingColon
  | badStructure
  | unknownAnchor
  | badTaggedScalar
  | integerOutOfRange
  | duplicateKey
  | tooDeep
  | tooManyAliases
  | manyDocuments
  deriving DecidableEq, Repr

end RuleCompiler.Yaml
