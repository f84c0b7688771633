import RuleCompiler.Value

/-!
Templates: texts with expressions in doubled braces. A template is read once into nodes, and the
nodes are rendered over a value. An expression writes a value or the result of a helper, a block
hands its body to a helper, and an inclusion renders another template in its place.
-/

namespace RuleCompiler.Template

/-- Where a reference starts, and the names that it follows from there. -/
inductive Route where
  /-- A variable of a loop, some blocks further out. -/
  | loopVariable (level : Nat) (name : String)
  /-- From the value that the whole template is rendered over. -/
  | fromRoot (names : List String)
  /-- From the current value, or from that of a block further out. -/
  | fromBlock (level : Nat) (names : List String)
  deriving DecidableEq, Repr

structure Reference where
  text : String
  route : Route
  deriving DecidableEq, Repr

inductive Argument where
  | literal (value : Value)
  | reference (reference : Reference)
  /-- The result of a helper, with its arguments in order and its named options. -/
  | call (helper : String) (arguments : List Argument) (options : List (String × Argument))
  deriving Repr

structure Call where
  helper : String
  arguments : List Argument := []
  options : List (String × Argument) := []
  deriving Repr

/-- The name of an included template: as it stands, or computed. -/
inductive IncludedName where
  | fixed (name : String)
  | computed (argument : Argument)
  deriving Repr

inductive Node where
  | text (text : String)
  /-- Write a value; `plain` leaves it unescaped. -/
  | value (plain : Bool) (argument : Argument)
  | call (plain : Bool) (call : Call)
  /-- A block, with the names that it gives to its values, its body and its other branch.
  `ownLine` tells that its opening tag stands on a line of its own. -/
  | block (call : Call) (names : List String) (ownLine : Bool) (body : List Node)
      (inverse : Option (List Node))
  /-- Another template, each line of which is indented. -/
  | include (name : IncludedName) (arguments : List Argument) (options : List (String × Argument))
      (indent : String) (ownLine : Bool)
  deriving Repr

inductive SyntaxError where
  /-- A tag starts here that no rule reads. -/
  | malformedTag (rest : String)
  | invalidLiteral (text : String)
  | strayElse
  | strayClose (name : String)
  | mismatchedClose (opened closed : String)
  | unclosed (name : String)
  deriving DecidableEq, Repr

def SyntaxError.message : SyntaxError → String
  | .malformedTag rest => "malformed tag at '" ++ rest ++ "'"
  | .invalidLiteral text => "invalid literal '" ++ text ++ "'"
  | .strayElse => "else outside a block"
  | .strayClose name => "closing tag '" ++ name ++ "' without a block"
  | .mismatchedClose opened closed =>
      "block '" ++ opened ++ "' is closed by '" ++ closed ++ "'"
  | .unclosed name => "block '" ++ name ++ "' is not closed"

end RuleCompiler.Template
