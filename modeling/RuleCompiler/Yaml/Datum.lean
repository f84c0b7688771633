import RuleCompiler.Yaml.Node
import RuleCompiler.Yaml.Plain
import RuleCompiler.Json.Writer
import RuleCompiler.Text.Piece

/-!
The data of a YAML document, and as much of it as a configuration value can hold. A mapping refuses
equal keys; its keys become strings where they are scalars other than null, so two different keys
can meet in one string, and the later one counts.
-/

namespace RuleCompiler.Yaml

inductive Datum where
  | null
  | bool (value : Bool)
  | integer (value : Int)
  | float (value : Binary64)
  | string (text : String)
  | sequence (items : List Datum)
  | mapping (entries : List (Datum × Datum))
  | tagged (tag : String) (inner : Datum)
  deriving Repr, Inhabited

namespace Datum

/-- Numbers are equal as numbers, and all numbers that are none are equal. -/
def sameFloat (x y : Binary64) : Bool :=
  if x.isFinite && y.isFinite then x.units == y.units
  else if x.isFinite || y.isFinite then false
  else x.isNan && y.isNan || x == y

mutual

/-- Equality; the order of a mapping's entries does not matter. -/
def same : Datum → Datum → Bool
  | .null, .null => true
  | .bool a, .bool b => a == b
  | .integer a, .integer b => a == b
  | .float a, .float b => sameFloat a b
  | .string a, .string b => a == b
  | .sequence a, .sequence b => sameItems a b
  | .mapping a, .mapping b => a.length == b.length && sameEntries a b
  | .tagged t a, .tagged u b => t == u && same a b
  | _, _ => false

def sameItems : List Datum → List Datum → Bool
  | [], [] => true
  | a :: left, b :: right => same a b && sameItems left right
  | _, _ => false

/-- Each entry of the first mapping is one of the second. -/
def sameEntries : List (Datum × Datum) → List (Datum × Datum) → Bool
  | [], _ => true
  | (key, value) :: left, right =>
      right.any (fun (k, v) => same key k && same value v) && sameEntries left right

end

/-- What a scalar with this tag means; `settled` tells that the tag has been dealt with. -/
def ofScalar (tag : Option String) (settled isPlain : Bool) (text : String) :
    Except ReadError Datum :=
  let plain : Except ReadError Datum :=
    match plainMeaning text.toList with
    | .null => .ok .null
    | .bool value => .ok (.bool value)
    | .integer value => if isStorable value then .ok (.integer value) else .error .integerOutOfRange
    | .float value => .ok (.float value)
    | .text => .ok (.string text)
  match (if settled then none else tag) with
  | none => if isPlain then plain else .ok (.string text)
  | some "tag:yaml.org,2002:bool" =>
      match boolOf? text.toList with
      | some value => .ok (.bool value)
      | none => .error .badTaggedScalar
  | some "tag:yaml.org,2002:int" =>
      match (integerOf? text.toList).filter isStorable with
      | some value => .ok (.integer value)
      | none => .error .badTaggedScalar
  | some "tag:yaml.org,2002:float" =>
      match floatOf? text.toList with
      | some value => .ok (.float value)
      | none => .error .badTaggedScalar
  | some "tag:yaml.org,2002:null" =>
      if isNullText text.toList then .ok .null else .error .badTaggedScalar
  | some other =>
      if other.toList.head? = some '!' && isPlain then plain else .ok (.string text)

/-- The name of an application's own tag, which starts with `!`. -/
def ownTag? (tag : Option String) : Option String :=
  match tag.map String.toList with
  | some ['!'] => some "!"
  | some ('!' :: name) => some (String.ofList name)
  | _ => none

/-- Aliases followed so far. -/
abbrev Reading := StateT Nat (Except ReadError)

def fail {α : Type} (failure : ReadError) : Reading α :=
  fun _ => .error failure

mutual

/-- The datum of a node. `depth` collections may still be entered; `fuel` bounds the steps, at most
three for every collection. -/
def ofNode (document : Document) (fuel depth : Nat) (settled : Bool) (node : Node) :
    Reading Datum :=
  match fuel with
  | 0 => fail .tooDeep
  | fuel + 1 =>
      let entering (tag : Option String) (inner : Nat → Reading Datum) : Reading Datum :=
        match (if settled then none else ownTag? tag), depth with
        | some name, _ => do return .tagged name (← ofNode document fuel depth true node)
        | none, 0 => fail .tooDeep
        | none, depth + 1 => inner depth
      match node with
      | .alias number => do
          let followed := (← get) + 1
          set followed
          if followed > document.events * 100 then fail .tooManyAliases
          match document.target? number with
          | some target => ofNode document fuel depth false target
          | none => fail .unknownAnchor
      | .scalar tag text isPlain =>
          match (if settled then none else ownTag? tag) with
          | some name => do
              return .tagged name (← ofScalar tag true isPlain text)
          | none => ofScalar tag settled isPlain text
      | .sequence tag items =>
          entering tag fun depth => do return .sequence (← ofItems document fuel depth items)
      | .mapping tag entries =>
          entering tag fun depth => do
            return .mapping (← ofEntries document fuel depth settled [] entries)
termination_by (fuel, 0)

def ofItems (document : Document) (fuel depth : Nat) (items : List Node) :
    Reading (List Datum) :=
  match fuel, items with
  | _, [] => return []
  | 0, _ => fail .tooDeep
  | fuel + 1, item :: items => do
      let first ← ofNode document fuel depth false item
      return first :: (← ofItems document (fuel + 1) depth items)
termination_by (fuel, items.length)

/-- The entries of a mapping after those already read. -/
def ofEntries (document : Document) (fuel depth : Nat) (settled : Bool)
    (read : List (Datum × Datum)) (entries : List (Node × Node)) :
    Reading (List (Datum × Datum)) :=
  match fuel, entries with
  | _, [] => return read
  | 0, _ => fail .tooDeep
  | fuel + 1, (key, value) :: entries => do
      let key ← ofNode document fuel depth settled key
      if read.any fun (other, _) => same other key then fail .duplicateKey
      let value ← ofNode document fuel depth false value
      ofEntries document (fuel + 1) depth settled (read ++ [(key, value)]) entries
termination_by (fuel, entries.length)

end

def maxDepth : Nat := 128

/-- The datum of a document; an empty stream is null. -/
def ofDocument (document : Document) : Except ReadError Datum :=
  match document.root with
  | none => .ok .null
  | some root => do
      let (datum, _) ← (ofNode document (3 * maxDepth + 8) maxDepth false root).run 0
      return datum

def keyText? : Datum → Option String
  | .string text => some text
  | .bool value => some (if value then "true" else "false")
  | .integer value => some (toString value)
  | .float value => if value.isFinite then some value.text else none
  | _ => none

mutual

/-- The value that holds a datum; a tag becomes the only key of an object. -/
def toValue? : Datum → Option Value
  | .null => some .null
  | .bool value => some (.bool value)
  | .integer value => some (.number (.integer value))
  | .float value => some (if value.isFinite then .number (.float value) else .null)
  | .string text => some (.string text)
  | .sequence items => do return .array (← itemsToValues? items)
  | .mapping entries => do return .ofFields (← entriesToFields? entries)
  | .tagged tag inner => do
      let name := if tag = "!" then tag else (Text.afterLead ['!'] tag.toList).elim tag String.ofList
      return .ofFields [("!" ++ name, ← toValue? inner)]

def itemsToValues? : List Datum → Option (List Value)
  | [] => some []
  | item :: items => do return (← toValue? item) :: (← itemsToValues? items)

def entriesToFields? : List (Datum × Datum) → Option (List (String × Value))
  | [] => some []
  | (key, value) :: entries => do
      return (← keyText? key, ← toValue? value) :: (← entriesToFields? entries)

end

end Datum

def read (text : String) : Except ReadError Datum := do
  let document ← Document.ofTokens? (← Token.scan text.toList)
  Datum.ofDocument document

end RuleCompiler.Yaml
