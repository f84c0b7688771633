import RuleCompiler.KeyedList
import RuleCompiler.Path.Basic

/-!
File trees. A directory holds its entries in increasing order of their names; a file holds text, or
bytes that are no text. A tree is addressed by the list of names that lead from its root. Every file
has one name, so there are no hard links, and there are no devices or pipes. What a tree holds can
always be looked at and read; what the system does not let be changed, for want of permission or of
room, is told by the host of the tree.
-/

namespace RuleCompiler

inductive FileContents where
  | text (text : String)
  /-- Bytes that are not UTF-8. -/
  | binary (bytes : List UInt8)
  deriving DecidableEq, Repr

/-- Bytes are text when they are UTF-8. -/
def FileContents.ofBytes (bytes : List UInt8) : FileContents :=
  match String.fromUTF8? (ByteArray.mk bytes.toArray) with
  | some decoded => .text decoded
  | none => .binary bytes

def FileContents.bytes : FileContents → List UInt8
  | .text written => written.toUTF8.toList
  | .binary written => written

/-- What a file holds once so many bytes of the contents are written. -/
def FileContents.beginning (contents : FileContents) (count : Nat) : FileContents :=
  .ofBytes (contents.bytes.take count)

inductive FileNode where
  | file (contents : FileContents)
  | directory (entries : List (String × FileNode))
  | link (target : String)
  deriving Repr, Inhabited

namespace FileNode

def child? (node : FileNode) (name : String) : Option FileNode :=
  match node with
  | .directory entries => KeyedList.get? entries name
  | _ => none

/-- The node that names lead to, through directories alone. -/
def at? (node : FileNode) : (names : List String) → Option FileNode
  | [] => some node
  | name :: names => (node.child? name).bind fun inner => inner.at? names

/-- Put a node where names lead to; nothing changes where a directory on the way is missing. -/
def put (node : FileNode) (names : List String) (placed : FileNode) : FileNode :=
  match names with
  | [] => placed
  | [name] =>
      match node with
      | .directory entries => .directory (KeyedList.insert entries name placed)
      | other => other
  | name :: next :: names =>
      match node with
      | .directory entries =>
          match KeyedList.get? entries name with
          | some inner => .directory (KeyedList.insert entries name (inner.put (next :: names) placed))
          | none => .directory entries
      | other => other

/-- A node inside new directories with these names. -/
def wrapped (names : List String) (node : FileNode) : FileNode :=
  names.foldr (fun name inner => .directory [(name, inner)]) node

/-- Put a node where names lead to, with the directories above it. A directory that is there
already keeps its entries. -/
def plant (node : FileNode) (names : List String) (placed : FileNode) : FileNode :=
  match names, node with
  | [], .directory entries =>
      match placed with
      | .directory _ => .directory entries
      | placed => placed
  | [], _ => placed
  | name :: names, .directory entries =>
      match KeyedList.get? entries name with
      | some inner => .directory (KeyedList.insert entries name (inner.plant names placed))
      | none => .directory (KeyedList.insert entries name (wrapped names placed))
  | _ :: _, other => other

def remove (node : FileNode) (names : List String) : FileNode :=
  match names with
  | [] => node
  | [name] =>
      match node with
      | .directory entries => .directory (KeyedList.erase entries name)
      | other => other
  | name :: next :: names =>
      match node with
      | .directory entries =>
          match KeyedList.get? entries name with
          | some inner => .directory (KeyedList.insert entries name (inner.remove (next :: names)))
          | none => .directory entries
      | other => other

end FileNode

/-- Why the system does not carry out a change. -/
inductive Refusal where
  | permissionDenied
  | readOnlyFilesystem
  | storageFull
  | quotaExceeded
  | fileTooLarge
  deriving DecidableEq, Repr

inductive FileChange where
  | makeDirectory
  | openFile
  | rename
  deriving DecidableEq, Repr

/-- The name of a temporary file, by the six letters and digits in it that are drawn at random. -/
structure TemporaryName where
  drawn : String
  size : drawn.utf8ByteSize = 6
  plain : drawn.toList.all Char.isAlphanum = true

instance : Inhabited TemporaryName :=
  ⟨{ drawn := "AAAAAA", size := by decide, plain := by decide }⟩

def TemporaryName.text (name : TemporaryName) : String :=
  ".tmp" ++ name.drawn

/-- The system that holds a tree: what it does not carry out, and what it draws at random. Both are
settled by the path alone, so that runs over the same tree can be compared. Whatever it refuses, it
lets a temporary file be removed. -/
structure Host where
  /-- Why a change at a path is refused that the tree itself would take. -/
  refusal? : FileChange → Path → Option Refusal := fun _ _ => none
  /-- After how many bytes writing into an open file breaks off, and why. -/
  breakOff? : Path → Option (Nat × Refusal) := fun _ => none
  /-- The name that is drawn for a temporary file beside a path. -/
  temporaryName : Path → TemporaryName := fun _ => default

/-- A whole file system: its tree, the directory that relative paths start from, and the system that
holds it. -/
structure FileTree where
  root : FileNode := .directory []
  workingDirectory : List String := []
  host : Host := {}

namespace FileTree

def at? (tree : FileTree) (names : List String) : Option FileNode :=
  tree.root.at? names

def put (tree : FileTree) (names : List String) (node : FileNode) : FileTree :=
  { tree with root := tree.root.put names node }

def remove (tree : FileTree) (names : List String) : FileTree :=
  { tree with root := tree.root.remove names }

def plant (tree : FileTree) (names : List String) (node : FileNode) : FileTree :=
  { tree with root := tree.root.plant names node }

def workingPath (tree : FileTree) : Path :=
  Path.ofNames true tree.workingDirectory

def absolutize (tree : FileTree) (path : Path) : Path :=
  path.absolutize tree.workingPath

end FileTree

end RuleCompiler
