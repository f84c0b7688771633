import RuleCompiler.Value
import RuleCompiler.Binary64.Shortest
import RuleCompiler.Text.Numeral

/-!
Writing JSON text, compact or indented by two blanks a level. Only the quote, the backslash and
the control characters below the blank are escaped.
-/

namespace RuleCompiler

/-- Integers in decimal; other numbers in their shortest text. -/
def Number.text : Number → String
  | .integer value => toString value
  | .float value => if value.isFinite then value.text else "null"

namespace Json

def escapeChar (c : Char) : List Char :=
  if c = '"' then ['\\', '"']
  else if c = '\\' then ['\\', '\\']
  else if c = '\x08' then ['\\', 'b']
  else if c = '\x0c' then ['\\', 'f']
  else if c = '\n' then ['\\', 'n']
  else if c = '\r' then ['\\', 'r']
  else if c = '\t' then ['\\', 't']
  else if c.toNat < 0x20 then
    '\\' :: 'u' :: Text.hexDigits c.toNat 4
  else [c]

def quoted (text : String) : String :=
  String.ofList ('"' :: text.toList.flatMap escapeChar ++ ['"'])

def commaJoined (pieces : List String) : String :=
  String.intercalate "," pieces

mutual

def compact : Value → String
  | .null => "null"
  | .bool true => "true"
  | .bool false => "false"
  | .number n => n.text
  | .string text => quoted text
  | .array items => "[" ++ commaJoined (compactItems items) ++ "]"
  | .object fields => "\x7b" ++ commaJoined (compactFields fields) ++ "\x7d"

def compactItems : List Value → List String
  | [] => []
  | item :: items => compact item :: compactItems items

def compactFields : List (String × Value) → List String
  | [] => []
  | (key, value) :: fields => (quoted key ++ ":" ++ compact value) :: compactFields fields

end

def indentation (level : Nat) : String :=
  String.ofList (List.replicate (2 * level) ' ')

/-- Lines one level deeper than `level`, between brackets; nothing between them when empty. -/
def block (level : Nat) (opening closing : String) (lines : List String) : String :=
  if lines.isEmpty then opening ++ closing
  else
    opening ++ "\n" ++
      String.intercalate ",\n" (lines.map fun line => indentation (level + 1) ++ line) ++
      "\n" ++ indentation level ++ closing

mutual

/-- The text of a value with one item or field a line. -/
def indented (level : Nat) : Value → String
  | .array items => block level "[" "]" (indentedItems level items)
  | .object fields => block level "\x7b" "\x7d" (indentedFields level fields)
  | .null => "null"
  | .bool true => "true"
  | .bool false => "false"
  | .number n => n.text
  | .string text => quoted text

def indentedItems (level : Nat) : List Value → List String
  | [] => []
  | item :: items => indented (level + 1) item :: indentedItems level items

def indentedFields (level : Nat) : List (String × Value) → List String
  | [] => []
  | (key, value) :: fields =>
      (quoted key ++ ": " ++ indented (level + 1) value) :: indentedFields level fields

end

end Json

end RuleCompiler
