import RuleCompiler.Yaml.Token

/-!
The nodes of a YAML document. The grammar reads tokens into a tree: scalars, sequences and mappings
with their tags, and aliases. An anchored node is kept in a table under a number, so that an alias
needs only that number: the number of different anchor names met before. Of several nodes with one
number the last that starts is meant, wherever the alias stands.
-/

namespace RuleCompiler.Yaml

inductive Node where
  | scalar (tag : Option String) (text : String) (isPlain : Bool)
  | sequence (tag : Option String) (items : List Node)
  | mapping (tag : Option String) (entries : List (Node × Node))
  | alias (number : Nat)
  deriving Repr, Inhabited

/-- An anchored node, with its number and its place in the order of starts. -/
structure Anchored where
  number : Nat
  order : Nat
  node : Node
  deriving Repr

/-- What the grammar knows besides the tokens left. -/
structure GrammarState where
  tokens : List Token
  /-- The handles of tags, with the text that each stands for. -/
  handles : List (String × String)
  /-- The number that each anchor name has now. -/
  names : List (String × Nat) := []
  started : Nat := 0
  anchored : List Anchored := []
  /-- Nodes and ends of collections so far. -/
  events : Nat := 0

abbrev Grammar := StateT GrammarState (Except ReadError)

namespace Grammar

/-- The next token; the stream's end once there is none. -/
def peek : Grammar Token := do
  return (← get).tokens.headD .streamEnd

def skip : Grammar Unit :=
  modify fun s => { s with tokens := s.tokens.tail }

def fail {α : Type} (failure : ReadError) : Grammar α :=
  fun _ => .error failure

/-- Count what a reader of the document meets one after the other. -/
def count (events : Nat) : Grammar Unit :=
  modify fun s => { s with events := s.events + events }

/-- The anchor and tag of a node that is still to be read. -/
structure Properties where
  anchor : Option (Nat × Nat) := none
  tag : Option String := none

/-- Give an anchor name its number: the count of other names if it is new or met again. -/
def startAnchor (name : String) : Grammar (Nat × Nat) := do
  let s ← get
  let number := s.names.length
  let names :=
    if (s.names.lookup name).isSome then
      s.names.map fun (other, old) => if other = name then (other, number) else (other, old)
    else s.names ++ [(name, number)]
  set { s with names, started := s.started + 1 }
  return (number, s.started)

/-- Put a finished node into the table if it has an anchor. -/
def finish (properties : Properties) (node : Node) : Grammar Node := do
  match properties.anchor with
  | some (number, order) =>
      modify fun s => { s with anchored := { number, order, node } :: s.anchored }
      return node
  | none => return node

/-- The whole tag that a handle and a suffix stand for. -/
def resolveTag (handle suffix : String) : Grammar String := do
  if handle = "" then return suffix
  match (← get).handles.lookup handle with
  | some start => return start ++ suffix
  | none => fail .badTag

/-- An anchor and a tag, in either order. -/
def readProperties : Grammar (Option String × Option (String × String)) := do
  match ← peek with
  | .anchor name =>
      skip
      match ← peek with
      | .tag handle suffix => skip; return (some name, some (handle, suffix))
      | _ => return (some name, none)
  | .tag handle suffix =>
      skip
      match ← peek with
      | .anchor name => skip; return (some name, some (handle, suffix))
      | _ => return (none, some (handle, suffix))
  | _ => return (none, none)

/-- The empty scalar, where a node is left out. -/
def emptyNode : Grammar Node := do
  count 1
  return .scalar none "" true

mutual

/-- A node. `block` tells whether block collections may start here, `indentless` whether a block
sequence may start at the indentation of the mapping around it. -/
def readNode (fuel : Nat) (block indentless : Bool) : Grammar Node :=
  match fuel with
  | 0 => fail .badStructure
  | fuel + 1 => do
      match ← peek with
      | .alias name =>
          match (← get).names.lookup name with
          | some number => skip; count 1; return .alias number
          | none => fail .unknownAnchor
      | _ =>
          let (anchor, tagParts) ← readProperties
          let tag ← match tagParts with
            | some (handle, suffix) => do pure (some (← resolveTag handle suffix))
            | none => pure none
          let start : Grammar Properties := do
            match anchor with
            | some name => do return { anchor := some (← startAnchor name), tag }
            | none => return { tag }
          let token ← peek
          if indentless && token == .blockEntry then
            let properties ← start
            let items ← readIndentless fuel
            count 2
            finish properties (.sequence tag items)
          else
            match token with
            | .scalar text isPlain =>
                let properties ← start
                skip
                count 1
                finish properties (.scalar (if tag = some "!" then none else tag) text isPlain)
            | .flowSequenceStart =>
                let properties ← start
                skip
                let items ← readFlowItems fuel true
                count 2
                finish properties (.sequence tag items)
            | .flowMappingStart =>
                let properties ← start
                skip
                let entries ← readFlowEntries fuel true
                count 2
                finish properties (.mapping tag entries)
            | other =>
                if block && other == .blockSequenceStart then
                  let properties ← start
                  skip
                  let items ← readBlockItems fuel
                  count 2
                  finish properties (.sequence tag items)
                else if block && other == .blockMappingStart then
                  let properties ← start
                  skip
                  let entries ← readBlockEntries fuel
                  count 2
                  finish properties (.mapping tag entries)
                else if anchor.isSome || tag.isSome then
                  let properties ← start
                  count 1
                  finish properties (.scalar tag "" true)
                else fail .badStructure

/-- The items of a block sequence, up to its end. -/
def readBlockItems (fuel : Nat) : Grammar (List Node) :=
  match fuel with
  | 0 => fail .badStructure
  | fuel + 1 => do
      match ← peek with
      | .blockEntry =>
          skip
          let item ← match ← peek with
            | .blockEntry | .blockEnd => emptyNode
            | _ => readNode fuel true false
          return item :: (← readBlockItems fuel)
      | .blockEnd => skip; return []
      | _ => fail .badStructure

/-- The items of a block sequence without an indentation of its own. -/
def readIndentless (fuel : Nat) : Grammar (List Node) :=
  match fuel with
  | 0 => fail .badStructure
  | fuel + 1 => do
      match ← peek with
      | .blockEntry =>
          skip
          let item ← match ← peek with
            | .blockEntry | .key | .value | .blockEnd => emptyNode
            | _ => readNode fuel true false
          return item :: (← readIndentless fuel)
      | _ => return []

/-- The entries of a block mapping, up to its end. A key or a value may be left out. -/
def readBlockEntries (fuel : Nat) : Grammar (List (Node × Node)) :=
  match fuel with
  | 0 => fail .badStructure
  | fuel + 1 => do
      match ← peek with
      | .blockEnd => skip; return []
      | .key =>
          skip
          let key ← match ← peek with
            | .key | .value | .blockEnd => emptyNode
            | _ => readNode fuel true true
          let value ← match ← peek with
            | .value => do
                skip
                match ← peek with
                | .key | .value | .blockEnd => emptyNode
                | _ => readNode fuel true true
            | _ => emptyNode
          return (key, value) :: (← readBlockEntries fuel)
      | _ => fail .badStructure

/-- The items of a flow sequence, up to its bracket; an item with a `?` or a colon is a mapping of
one entry. -/
def readFlowItems (fuel : Nat) (first : Bool) : Grammar (List Node) :=
  match fuel with
  | 0 => fail .badStructure
  | fuel + 1 => do
      if (← peek) == .flowSequenceEnd then
        skip
        return []
      if !first then
        if (← peek) == .flowEntry then skip else fail .badStructure
      match ← peek with
      | .flowSequenceEnd => skip; return []
      | .key =>
          skip
          let key ← match ← peek with
            | .value | .flowEntry | .flowSequenceEnd => do skip; emptyNode
            | _ => readNode fuel false false
          let value ← match ← peek with
            | .value => do
                skip
                match ← peek with
                | .flowEntry | .flowSequenceEnd => emptyNode
                | _ => readNode fuel false false
            | _ => emptyNode
          count 2
          return .mapping none [(key, value)] :: (← readFlowItems fuel false)
      | _ =>
          let item ← readNode fuel false false
          return item :: (← readFlowItems fuel false)

def readFlowEntries (fuel : Nat) (first : Bool) : Grammar (List (Node × Node)) :=
  match fuel with
  | 0 => fail .badStructure
  | fuel + 1 => do
      if (← peek) == .flowMappingEnd then
        skip
        return []
      if !first then
        if (← peek) == .flowEntry then skip else fail .badStructure
      match ← peek with
      | .flowMappingEnd => skip; return []
      | .key =>
          skip
          let key ← match ← peek with
            | .value | .flowEntry | .flowMappingEnd => emptyNode
            | _ => readNode fuel false false
          let value ← match ← peek with
            | .value => do
                skip
                match ← peek with
                | .flowEntry | .flowMappingEnd => emptyNode
                | _ => readNode fuel false false
            | _ => emptyNode
          return (key, value) :: (← readFlowEntries fuel false)
      | _ =>
          let key ← readNode fuel false false
          let value ← emptyNode
          return (key, value) :: (← readFlowEntries fuel false)

end

def standardHandles : List (String × String) :=
  [("!", "!"), ("!!", "tag:yaml.org,2002:")]

/-- The directives in front of a document: one version at most, and no handle twice. -/
def readDirectives (fuel : Nat) (versioned : Bool) (handles : List (String × String)) :
    Grammar (List (String × String)) :=
  match fuel with
  | 0 => fail .badDirective
  | fuel + 1 => do
      match ← peek with
      | .versionDirective major minor =>
          if versioned || major != 1 || (minor != 1 && minor != 2) then fail .badDirective
          skip
          readDirectives fuel true handles
      | .tagDirective handle start =>
          if (handles.lookup handle).isSome then fail .badDirective
          skip
          readDirectives fuel versioned (handles ++ [(handle, start)])
      | _ => return handles

def skipDocumentEnds (fuel : Nat) : Grammar Unit :=
  match fuel with
  | 0 => pure ()
  | fuel + 1 => do
      if (← peek) == .documentEnd then
        skip
        skipDocumentEnds fuel

/-- The only document of a stream; an empty stream holds none. -/
def readStream (fuel : Nat) : Grammar (Option Node) := do
  if (← peek) == .streamEnd then return none
  let explicit := match ← peek with
    | .versionDirective .. | .tagDirective .. | .documentStart => true
    | _ => false
  let node ←
    if explicit then do
      let handles ← readDirectives fuel false []
      if (← peek) != .documentStart then fail .badStructure
      skip
      modify fun s => { s with handles := handles ++ standardHandles }
      match ← peek with
      | .versionDirective .. | .tagDirective .. | .documentStart | .documentEnd | .streamEnd =>
          emptyNode
      | _ => readNode fuel true false
    else readNode fuel true false
  skipDocumentEnds fuel
  if (← peek) == .streamEnd then return some node else fail .manyDocuments

end Grammar

/-- A document: its root, the anchored nodes, and how many nodes and ends of collections it has. -/
structure Document where
  root : Option Node
  anchored : List Anchored
  events : Nat

def Document.target? (document : Document) (number : Nat) : Option Node :=
  let candidates := document.anchored.filter fun anchored => anchored.number == number
  (candidates.foldl (fun best anchored =>
    match best with
    | some (found : Anchored) => if found.order < anchored.order then some anchored else best
    | none => some anchored) none).map Anchored.node

def Document.ofTokens? (tokens : List Token) : Except ReadError Document := do
  let (root, s) ← (Grammar.readStream (4 * tokens.length + 8)).run
    { tokens, handles := Grammar.standardHandles }
  return { root, anchored := s.anchored, events := s.events }

end RuleCompiler.Yaml
