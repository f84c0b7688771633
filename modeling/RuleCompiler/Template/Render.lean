import RuleCompiler.Template.Helper
import RuleCompiler.Template.Page
import RuleCompiler.Template.Reader
import RuleCompiler.Wording

/-!
Rendering. Nodes are rendered one after the other onto a page. What an inclusion does is a
parameter of rendering, so that rendering follows the nodes, and nested inclusions follow the depth
that is left to them.
-/

namespace RuleCompiler.Template

structure Setup where
  helpers : KeyedList HelperFunction := []
  partials : KeyedList (List Node) := []
  strict : Bool := false
  escape : String → String := escaped

namespace Setup

/-- The helper of a name: given ones come before the standard ones. -/
def helper? (setup : Setup) (name : String) : Option Helper :=
  match setup.helpers.get? name, standardHelpers.get? name with
  | some given, _ => some (.function given)
  | none, some standard => some (.function standard)
  | none, none =>
      match Operation.ofName? name with
      | some operation => some (.operation operation)
      | none => (Control.ofName? name).map Helper.control

end Setup

/-! ### Arguments -/

/-- The result of a helper that is called without a block. A control then writes nothing. -/
def callResult (setup : Setup) (scope : Scope) (name : String) (arguments : List Found)
    (options : List (String × Found)) : Except RenderError (Option Value) :=
  match setup.helper? name with
  | none => .error (.unknownHelper name)
  | some (.function run) =>
      match run (arguments.map Found.get) with
      | .ok value => .ok (some value)
      | .error message => .error (.helperFailed name message)
  | some (.operation operation) => do return some (← operation.run setup.strict arguments)
  | some (.control control) =>
      if control = .each && !arguments.isEmpty then .ok none
      else do
        let _ ← control.plan setup.strict false scope arguments options []
        return none

mutual

def evaluate (setup : Setup) (scope : Scope) : Argument → Except RenderError Found
  | .literal value => .ok (.made value)
  | .reference reference => scope.find reference.route
  | .call helper arguments options => do
      let arguments ← evaluateAll setup scope arguments
      let options ← evaluateOptions setup scope options
      return .made ((← callResult setup scope helper arguments options).getD (.string ""))

def evaluateAll (setup : Setup) (scope : Scope) : List Argument → Except RenderError (List Found)
  | [] => .ok []
  | argument :: arguments => do
      let found ← evaluate setup scope argument
      return found :: (← evaluateAll setup scope arguments)

def evaluateOptions (setup : Setup) (scope : Scope) :
    List (String × Argument) → Except RenderError (List (String × Found))
  | [] => .ok []
  | (name, argument) :: options => do
      let found ← evaluate setup scope argument
      return (name, found) :: (← evaluateOptions setup scope options)

end

/-! ### Nodes -/

/-- An inclusion with everything about it evaluated. `indent` is its own. -/
structure Inclusion where
  name : String
  argument : Option Found
  options : List (String × Found)
  indent : String

/-- Where on the page a node stands: its scope, the indentation in force, and the name of the
template whose outermost nodes are being rendered. -/
structure Place where
  scope : Scope
  indent : String := ""
  template : Option String := none

abbrev Includer := Place → Inclusion → Page → Except RenderError Page

/-- Write a value, escaped unless it is `plain`. -/
def writeValue (setup : Setup) (place : Place) (plain : Bool) (value : Value) (page : Page) :
    Page :=
  let text := valueText value
  page.write place.indent (if plain then text else setup.escape text)

/-- Render a value. A name that a helper has is a call of the helper. -/
def renderValue (setup : Setup) (place : Place) (plain : Bool) (argument : Argument)
    (page : Page) : Except RenderError Page := do
  let name ← match argument with
    | .reference reference => pure reference.text
    | other => do
        let found ← evaluate setup place.scope other
        pure (valueText found.get)
  if (setup.helper? name).isSome then
    match ← callResult setup place.scope name [] [] with
    | some value => return writeValue setup place plain value page
    | none => return page
  else
    match (← evaluate setup place.scope argument).value with
    | some value => return writeValue setup place plain value page
    | none => if setup.strict then throw (.missingValue (some name)) else return page

def includedName (setup : Setup) (scope : Scope) : IncludedName → Except RenderError String
  | .fixed name => .ok name
  | .computed argument => do return valueText (← evaluate setup scope argument).get

/-- The branch of a block to render and the scopes to render it in; or a value to write instead. -/
inductive BlockResult where
  | value (value : Value)
  | branch (inverse : Bool) (scopes : List Scope)

def blockResult (setup : Setup) (scope : Scope) (call : Call) (names : List String)
    (hasInverse : Bool) : Except RenderError BlockResult := do
  let arguments ← evaluateAll setup scope call.arguments
  let options ← evaluateOptions setup scope call.options
  match setup.helper? call.helper with
  | some (.control control) =>
      match ← control.plan setup.strict hasInverse scope arguments options names with
      | .body scopes => return .branch false scopes
      | .inverse => return .branch true [scope]
  | _ =>
      match ← callResult setup scope call.helper arguments options with
      | some value => return .value value
      | none => return .branch false []

mutual

def renderNode (setup : Setup) (includer : Includer) (place : Place) (page : Page) :
    Node → Except RenderError Page
  | .text text => .ok (page.write place.indent text)
  | .value plain argument => renderValue setup place plain argument page
  | .call plain call => do
      let arguments ← evaluateAll setup place.scope call.arguments
      let options ← evaluateOptions setup place.scope call.options
      match ← callResult setup place.scope call.helper arguments options with
      | some value => return writeValue setup place plain value page
      | none => return page
  | .block call names ownLine body inverse => do
      let inside := fun (scope : Scope) => { place with scope, template := none : Place }
      let result ← blockResult setup place.scope call names inverse.isSome
      page.part (page.indentsNext || (ownLine && page.atLineStart)) fun page =>
        match result with
        | .value value => .ok (writeValue setup place false value page)
        | .branch false scopes =>
            scopes.foldlM
              (fun page scope => renderNodes setup includer (inside scope) page body) page
        | .branch true scopes =>
            scopes.foldlM
              (fun page scope => renderBranch setup includer (inside scope) page inverse) page
  | .include name arguments options indent ownLine => do
      let name ← includedName setup place.scope name
      let arguments ← evaluateAll setup place.scope arguments
      let options ← evaluateOptions setup place.scope options
      let inclusion := { name, argument := arguments.head?, options, indent : Inclusion }
      page.part (ownLine && (page.atLineStart || indent ≠ "")) (includer place inclusion)

def renderNodes (setup : Setup) (includer : Includer) (place : Place) (page : Page) :
    List Node → Except RenderError Page
  | [] => .ok page
  | node :: nodes => do
      let page ← renderNode setup includer place page node
      renderNodes setup includer place page nodes

def renderBranch (setup : Setup) (includer : Includer) (place : Place) (page : Page) :
    Option (List Node) → Except RenderError Page
  | none => .ok page
  | some nodes => renderNodes setup includer place page nodes

end

/-! ### Inclusions -/

/-- The scope of an included template: over the stored value that it is given, with its options as
fields of the current value. -/
def Inclusion.scope (inclusion : Inclusion) (scope : Scope) : Scope :=
  let scope :=
    match inclusion.argument with
    | some { value := some value, stored := true } =>
        scope.alone { base := value, stored := true }
    | _ => scope
  if inclusion.options.isEmpty then scope
  else
    let block := scope.innermost
    let merged := inclusion.options.foldl
      (fun fields (name, found) => KeyedList.insert fields name found.get)
      (block.base.asObject?.getD [])
    scope.alone { block with base := .object merged, stored := false }

def maxNesting : Nat := 1000

/-- Include partials, nested at most so deep. -/
def includer (setup : Setup) (depth : Nat) : Includer := fun place inclusion page =>
  if place.template = some inclusion.name then .error (.includesItself inclusion.name)
  else
    match setup.partials.get? inclusion.name, depth with
    | none, _ => .error (.unknownPartial inclusion.name)
    | some _, 0 => .error .nestedTooDeep
    | some nodes, depth + 1 =>
        renderNodes setup (includer setup depth)
          { scope := inclusion.scope place.scope
            indent := place.indent ++ inclusion.indent
            template := some inclusion.name }
          page nodes

def renderOver (setup : Setup) (context : Value) (nodes : List Node) :
    Except RenderError String := do
  let page ← renderNodes setup (includer setup maxNesting) { scope := Scope.initial context } {}
    nodes
  return page.text

end RuleCompiler.Template
