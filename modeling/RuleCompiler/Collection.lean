import RuleCompiler.Document.Basic
import RuleCompiler.Text.Blank

/-!
Collections: the documents that are merged into one output. A collection holds one entry for each
label, so recording a document again replaces what it said before, and the merged text depends only
on the entries, not on the order in which they came.
-/

namespace RuleCompiler

structure Contribution where
  contents : String
  diagnostics : List Diagnostic
  deriving Repr

structure Collection where
  entries : KeyedList Contribution := []
  /-- How many documents had neither a path nor an id. Each of them keeps an entry under a number of
  its own, so memory ends long before a counter of 64 bits would wrap. -/
  anonymous : Nat := 0
  deriving Repr

structure CollectionStyle where
  heading : Option String := none
  /-- What is written while the output is switched off. -/
  placeholder : String
  deriving Repr

structure MergedOutput where
  contents : String
  diagnostics : List Diagnostic
  documents : Nat
  deriving Repr

namespace Collection

def size (collection : Collection) : Nat :=
  collection.entries.length

def labels (collection : Collection) : List String :=
  collection.entries.keys

/-- The label of a document, with the count of documents that have no name of their own: the path
from the root, else the id, else a number. -/
def labelFor (collection : Collection) (workingDirectory root : Path) (source : DocumentSource) :
    String × Nat :=
  match source.path with
  | some path => (path.relativeLabel workingDirectory root, collection.anonymous)
  | none =>
      if source.id ≠ "" then (source.id, collection.anonymous)
      else ("anonymous-" ++ toString (collection.anonymous + 1), collection.anonymous + 1)

def record (collection : Collection) (workingDirectory root : Path) (source : DocumentSource)
    (contents : String) (diagnostics : List Diagnostic) : Collection :=
  let (label, anonymous) := collection.labelFor workingDirectory root source
  { entries :=
      collection.entries.insert label { contents := Text.trimmedEnd contents, diagnostics }
    anonymous }

def separator : String := "\n\n---\n\n"

def sectionText (label : String) (contribution : Contribution) : String :=
  "<!-- source: " ++ label ++ " -->\n\n" ++ contribution.contents

/-- The text of a collection: the heading, and every entry under its label. -/
def text (collection : Collection) (heading : Option String) : String :=
  let top := match heading with
    | some heading => Text.trimmedEnd heading ++ "\n\n"
    | none => ""
  let sections := collection.entries.map fun (label, contribution) =>
    sectionText label contribution
  top ++ separator.intercalate sections ++ "\n"

/-- The output of a collection; the placeholder while the output is switched off. -/
def merged (collection : Collection) (style : CollectionStyle) (emit : Bool) : MergedOutput :=
  if emit then
    { contents := collection.text style.heading
      diagnostics := collection.entries.flatMap fun (_, contribution) => contribution.diagnostics
      documents := collection.size }
  else { contents := style.placeholder, diagnostics := [], documents := collection.size }

end Collection

end RuleCompiler
