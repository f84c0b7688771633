import RuleCompiler.Json.Reader
import RuleCompiler.Template.Grammar

/-!
Reading what stands in a tag: words, references, literals, calls in parentheses, and the arguments
and options of a helper.
-/

namespace RuleCompiler.Template

open Rule

/-- The characters of a word; every character outside ASCII is one. -/
def isWordChar (c : Char) : Bool :=
  c.isAlphanum || c == '_' || c == '-' || c == '$' || 0x80 ≤ c.toNat

def isIncludedNameChar (c : Char) : Bool :=
  c.isAlphanum || c == '_' || c == '-' || c == '/' || c == '.' || 0x80 ≤ c.toNat

/-- The name of a helper, an option or a block's value. -/
def word : Rule String := do
  return String.ofList (← run1 isWordChar)

/-! ### References -/

inductive Step where
  | up
  | name (text : String)
  deriving DecidableEq, Repr

def Step.name? : Step → Option String
  | .up => none
  | .name text => some text

def separator : Rule Unit :=
  firstOf [literally "/", literally "."]

def bracketedName : Rule Step := do
  literally "["
  return .name (String.ofList (← through "]"))

def step : Rule Step :=
  firstOf
    [do literally ".."; return .up,
     bracketedName,
     do return .name (← word)]

/-- The word `this` or a point, where a step follows. -/
def leadingThis : Rule Unit :=
  firstOf [do literally "this"; separator, literally "./"]

def upward : Rule Unit := do
  literally ".."
  separator

/-- The route of a reference from its parts. `this` leads nowhere, and ways up count before the
first name only. -/
def routeOf (fromRoot isLoopVariable : Bool) (ups : Nat) (steps : List Step) : Route :=
  let steps := steps.filter (· ≠ .name "this")
  let level := ups + (steps.takeWhile (· == Step.up)).length
  let names := steps.filterMap Step.name?
  if fromRoot then .fromRoot names
  else if isLoopVariable then
    match names with
    | name :: _ => .loopVariable level name
    | [] => .fromBlock 0 []
  else .fromBlock level names

def reference (fuel : Nat) : Rule Reference := do
  let (text, route) ← withText do
    let _ ← optional leadingThis
    let root ← optional do literally "@root"; separator
    let at? ← optional (literally "@")
    let ups ← many fuel upward
    let first ← step
    let others ← many fuel do separator; step
    return routeOf root.isSome at?.isSome ups.length (first :: others)
  return { text := String.ofList text, route }

/-! ### Literals -/

def wordEnds : Rule Unit :=
  absent (run1 isWordChar)

def numberText : Rule Unit := do
  let _ ← optional (literally "-")
  let _ ← run1 Char.isDigit
  let _ ← optional (literally ".")
  let _ ← run Char.isDigit
  let _ ← optional do
    literally "E"
    let _ ← optional (literally "-")
    let _ ← run1 Char.isDigit
  wordEnds

def quotedChar (quote : Char) : Rule Unit
  | '\\' :: 'u' :: a :: b :: c :: d :: rest =>
      if [a, b, c, d].all Text.isHexDigit then .taken () rest else .refused
  | '\\' :: c :: rest =>
      if c == quote || ['\\', '/', 'b', 'f', 'n', 'r', 't'].contains c then .taken () rest
      else .refused
  | c :: rest => if c == quote || c == '\\' then .refused else .taken () rest
  | [] => .refused

def quotedText (fuel : Nat) (quote : Char) : Rule (List Char) := do
  literally (String.singleton quote)
  let (text, _) ← withText (many fuel (quotedChar quote))
  literally (String.singleton quote)
  return text

/-- A text in single quotes with the quotes of a text in double ones. -/
def requoted : List Char → List Char
  | '\\' :: '\'' :: rest => '\'' :: requoted rest
  | '"' :: rest => '\\' :: '"' :: requoted rest
  | c :: rest => c :: requoted rest
  | [] => []

def spelled (text : List Char) : Rule Value := fun rest =>
  match Json.read (String.ofList text) with
  | .ok value => .taken value rest
  | .error _ => .broken (.invalidLiteral (String.ofList text))

/-- The text of a literal, in which literals may be nested. -/
def literalText (fuel : Nat) : Rule Unit :=
  match fuel with
  | 0 => fails
  | fuel + 1 =>
      let listed := fun (item : Rule Unit) => do
        let _ ← optional do space; item
        let _ ← many fuel do space; literally ","; space; item
        space
      firstOf
        [do let _ ← quotedText fuel '"',
         do let _ ← quotedText fuel '\'',
         do literally "["; listed (literalText fuel); literally "]",
         do
          literally "\x7b"
          listed do
            let _ ← otherwise (quotedText fuel '"') (quotedText fuel '\'')
            space; literally ":"; space; literalText fuel
          literally "\x7d",
         numberText,
         do literally "null"; wordEnds,
         do firstOf [literally "true", literally "false"]; wordEnds]

def literal (fuel : Nat) : Rule Value :=
  otherwise
    (do
      let text ← quotedText fuel '\''
      spelled ('"' :: requoted text ++ ['"']))
    (do
      let (text, _) ← withText (literalText fuel)
      spelled text)

/-! ### Arguments -/

/-- The words `as` and `else` where they stand as words of the tag. -/
def keyword : Rule Unit := do
  firstOf [literally "as", literally "else"]
  space
  wordEnds

/-- Arguments and options in the order in which they are written. -/
abbrev Handed := List (Sum Argument (String × Argument))

def Handed.arguments (handed : Handed) : List Argument :=
  handed.filterMap Sum.getLeft?

/-- Of options with one name the last counts. -/
def Handed.options (handed : Handed) : List (String × Argument) :=
  KeyedList.ofList (handed.filterMap Sum.getRight?)

def callOf (helper : String) (handed : Handed) : Call :=
  { helper, arguments := handed.arguments, options := handed.options }

/-- One argument. `nested` reads what may stand in parentheses. -/
def argumentWith (fuel : Nat) (nested : Rule Argument) : Rule Argument := do
  absent keyword
  firstOf
    [do return .literal (← literal fuel),
     do return .reference (← reference fuel),
     nested]

def handedOne (argument : Rule Argument) : Rule (Sum Argument (String × Argument)) :=
  otherwise
    (do
      let name ← word
      space; literally "="; space
      return .inr (name, ← argument))
    (do return .inl (← argument))

def handedWith (fuel : Nat) (argument : Rule Argument) : Rule Handed :=
  many fuel do space; handedOne argument

/-- A call in parentheses: a helper with what is handed to it, or a reference by itself. -/
def nestedCall (fuel : Nat) : Rule Argument :=
  match fuel with
  | 0 => fails
  | fuel + 1 => do
      literally "("
      space
      let call ← otherwise
        (do
          let helper ← word
          match ← handedWith fuel (argumentWith fuel (nestedCall fuel)) with
          | [] => fails
          | handed => return .call helper handed.arguments handed.options)
        (do return .call (← reference fuel).text [] [])
      space
      literally ")"
      return call

def argument (fuel : Nat) : Rule Argument :=
  argumentWith fuel (nestedCall fuel)

def handed (fuel : Nat) : Rule Handed :=
  handedWith fuel (argument fuel)

end RuleCompiler.Template
