import RuleCompiler.Template.Argument

/-!
Tags: what stands between doubled braces. A tilde at either end of a tag drops the blanks beside it.
-/

namespace RuleCompiler.Template

open Rule

inductive TagKind where
  | comment
  | value (plain : Bool) (argument : Argument)
  | call (plain : Bool) (call : Call)
  | opening (call : Call) (names : List String)
  | otherwise
  /-- The start of another branch that is a block of its own. -/
  | otherwiseCall (call : Call) (names : List String)
  | closing (name : String)
  | include (name : IncludedName) (arguments : List Argument) (options : List (String × Argument))
  deriving Repr

structure Tag where
  kind : TagKind
  trimsBefore : Bool := false
  trimsAfter : Bool := false
  deriving Repr

/-- Tags that leave no line behind when they stand on one alone. -/
def Tag.canOwnLine (tag : Tag) : Bool :=
  match tag.kind with
  | .value .. | .call .. => false
  | _ => true

def Tag.isComment (tag : Tag) : Bool :=
  match tag.kind with
  | .comment => true
  | _ => false

namespace Tag

def tilde : Rule Bool := do
  return (← optional (literally "~")).isSome

def between (opening closing : String) (inner : Rule TagKind) : Rule Tag := do
  literally opening
  space
  let trimsBefore ← tilde
  space
  let kind ← inner
  space
  let trimsAfter ← tilde
  space
  literally closing
  return { kind, trimsBefore, trimsAfter }

def braced (inner : Rule TagKind) : Rule Tag :=
  between "\x7b\x7b" "\x7d\x7d" inner

/-- A value by itself: a call in parentheses or a reference. -/
def lone (fuel : Nat) : Rule Argument :=
  otherwise (nestedCall fuel) (do return .reference (← reference fuel))

/-- A helper with something handed to it, or a value by itself. -/
def expression (fuel : Nat) (plain : Bool) : Rule TagKind :=
  otherwise
    (do
      let helper ← word
      match ← handed fuel with
      | [] => fails
      | handed => return .call plain (callOf helper handed))
    (do return .value plain (← lone fuel))

def blockNames : Rule (List String) := do
  literally "as"; space; literally "|"; space
  let first ← word
  space
  let second ← optional word
  space
  literally "|"
  return first :: second.toList

def blockCall (fuel : Nat) : Rule (Call × List String) := do
  let helper ← word
  let handed ← handed fuel
  let names ← optional do space; blockNames
  return (callOf helper handed, names.getD [])

def elseWord : Rule Unit :=
  firstOf [literally "else", literally "^"]

def elseTag (fuel : Nat) : Rule Tag :=
  otherwise
    (braced do
      elseWord
      space
      let (call, names) ← blockCall fuel
      return .otherwiseCall call names)
    (braced do elseWord; return .otherwise)

def comment : Rule Tag :=
  let opened : Rule Unit := do literally "\x7b\x7b"; space; literally "!"
  otherwise
    (do
      opened
      space
      literally "--"
      let _ ← through "--\x7d\x7d"
      return { kind := .comment })
    (do
      opened
      let _ ← through "\x7d\x7d"
      return { kind := .comment })

def includeTag (fuel : Nat) : Rule Tag :=
  braced do
    literally ">"
    space
    let name ← otherwise
      (do return .fixed (String.ofList (← run1 isIncludedNameChar)))
      (do
        match ← lone fuel with
        | .reference reference => return .fixed reference.text
        | argument => return .computed argument)
    let handed ← handed fuel
    return .include name handed.arguments handed.options

def read (fuel : Nat) : Rule Tag :=
  firstOf
    [elseTag fuel,
     braced (expression fuel false),
     between "\x7b\x7b\x7b" "\x7d\x7d\x7d" (expression fuel true),
     braced do
       literally "\x7b"; space
       let kind ← expression fuel true
       space; literally "\x7d"
       return kind,
     braced do literally "&"; space; return .value true (← lone fuel),
     braced do
       literally "#"; space
       let (call, names) ← blockCall fuel
       return .opening call names,
     braced do literally "/"; space; return .closing (← word),
     comment,
     includeTag fuel]

end Tag

end RuleCompiler.Template
