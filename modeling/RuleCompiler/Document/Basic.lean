import RuleCompiler.Diagnostic
import RuleCompiler.Path.Basic

/-!
Rule documents: where a document comes from, its frontmatter, and the outline of its body; and the
compiled form that a provider receives. Every document and every part of one is written as a value
and read back from it.
-/

namespace RuleCompiler

inductive SourceFormat where
  | markdown
  | xml
  deriving DecidableEq, Repr

structure DocumentSource where
  id : String
  path : Option Path := none
  contents : String
  format : SourceFormat := .markdown
  deriving DecidableEq, Repr

structure DocumentMetadata where
  frontmatter : Value := .object []
  version : Option String := none
  deriving Repr

structure Section where
  title : String
  level : Nat
  line : Nat
  deriving DecidableEq, Repr

structure Marker where
  name : String
  line : Nat
  deriving DecidableEq, Repr

structure Outline where
  sections : List Section := []
  imports : List String := []
  variableNames : List String := []
  markers : List Marker := []
  deriving DecidableEq, Repr

structure Document where
  source : DocumentSource
  metadata : DocumentMetadata
  outline : Outline := {}
  diagnostics : List Diagnostic := []
  deriving Repr

/-- A document as a provider receives it: the body as rendered for its destination. -/
structure CompiledDocument where
  source : DocumentSource
  metadata : DocumentMetadata
  outline : Outline
  content : String
  destinationId : String
  mergedConfig : Value
  deriving Repr

namespace SourceFormat

def name : SourceFormat → String
  | .markdown => "markdown"
  | .xml => "xml"

def ofName? : String → Option SourceFormat
  | "markdown" => some .markdown
  | "xml" => some .xml
  | _ => none

end SourceFormat

namespace Document

/-- A markdown document without a path and without an outline. -/
def ofContents (id contents : String) (frontmatter : Value) : Document :=
  { source := { id, contents }, metadata := { frontmatter } }

def frontmatter (document : Document) : Value :=
  document.metadata.frontmatter

/-- The path, or the id in angle brackets. -/
def label (document : Document) : String :=
  match document.source.path with
  | some path => path.text
  | none => "<" ++ document.source.id ++ ">"

end Document

/-- The greatest level and line that a value can give. -/
def maxLevel : Nat := 255

def maxLine : Nat := Nat.pow 2 64 - 1

/-- An integer from zero to `most`. -/
def Value.asNat? (most : Nat) : Value → Option Nat
  | .number (.integer value) => if 0 ≤ value ∧ value ≤ most then some value.toNat else none
  | _ => none

def Value.asPath? (value : Value) : Option Path :=
  value.asString?.map Path.mk

namespace DocumentSource

def toValue (source : DocumentSource) : Value :=
  .ofFields
    [("id", .string source.id),
     ("path", .ofString? (source.path.map Path.text)),
     ("contents", .string source.contents),
     ("format", .string source.format.name)]

def fields : Record.Field DocumentSource := do
  let id ← Record.required "id" Value.asString?
  let path ← Record.optional "path" Value.asPath?
  let contents ← Record.required "contents" Value.asString?
  let format ← Record.defaulted "format" .markdown (Record.choice SourceFormat.ofName?)
  return { id, path, contents, format }

end DocumentSource

namespace DocumentMetadata

def toValue (metadata : DocumentMetadata) : Value :=
  .ofFields
    [("frontmatter", metadata.frontmatter), ("version", .ofString? metadata.version)]

def fields : Record.Field DocumentMetadata := do
  let frontmatter ← Record.defaulted "frontmatter" (.object []) some
  let version ← Record.optional "version" Value.asString?
  return { frontmatter, version }

end DocumentMetadata

namespace Section

def toValue (heading : Section) : Value :=
  .ofFields
    [("title", .string heading.title), ("level", .ofNat heading.level), ("line", .ofNat heading.line)]

def fields : Record.Field Section := do
  let title ← Record.required "title" Value.asString?
  let level ← Record.required "level" (Value.asNat? maxLevel)
  let line ← Record.required "line" (Value.asNat? maxLine)
  return { title, level, line }

end Section

namespace Marker

def toValue (marker : Marker) : Value :=
  .ofFields [("name", .string marker.name), ("line", .ofNat marker.line)]

def fields : Record.Field Marker := do
  let name ← Record.required "name" Value.asString?
  let line ← Record.required "line" (Value.asNat? maxLine)
  return { name, line }

end Marker

namespace Outline

def toValue (outline : Outline) : Value :=
  .ofFields
    [("sections", .array (outline.sections.map Section.toValue)),
     ("imports", .ofStrings outline.imports),
     ("variables", .ofStrings outline.variableNames),
     ("markers", .array (outline.markers.map Marker.toValue))]

def fields : Record.Field Outline := do
  let sections ← Record.defaulted "sections" [] (Record.listOf (Record.read Section.fields))
  let imports ← Record.defaulted "imports" [] (Record.listOf Value.asString?)
  let variableNames ← Record.defaulted "variables" [] (Record.listOf Value.asString?)
  let markers ← Record.defaulted "markers" [] (Record.listOf (Record.read Marker.fields))
  return { sections, imports, variableNames, markers }

end Outline

namespace Document

def toValue (document : Document) : Value :=
  .ofFields
    [("source", document.source.toValue),
     ("metadata", document.metadata.toValue),
     ("ast", document.outline.toValue),
     ("diagnostics", .array (document.diagnostics.map Diagnostic.toValue))]

def fields : Record.Field Document := do
  let source ← Record.required "source" (Record.read DocumentSource.fields)
  let metadata ← Record.required "metadata" (Record.read DocumentMetadata.fields)
  let outline ← Record.defaulted "ast" {} (Record.read Outline.fields)
  let diagnostics ← Record.defaulted "diagnostics" [] (Record.listOf Diagnostic.ofValue?)
  return { source, metadata, outline, diagnostics }

def ofValue? : Value → Option Document :=
  Record.read fields

end Document

namespace CompiledDocument

def toValue (compiled : CompiledDocument) : Value :=
  .ofFields
    [("source", compiled.source.toValue),
     ("metadata", compiled.metadata.toValue),
     ("ast", compiled.outline.toValue),
     ("output", .ofFields [("content", .string compiled.content)]),
     ("context", .ofFields
       [("destinationId", .string compiled.destinationId),
        ("mergedConfig", compiled.mergedConfig)])]

end CompiledDocument

end RuleCompiler
