import RuleCompiler.Wording
import RuleCompiler.Workspace

/-!
Discovering partials. They lie in three layers of directories: the user's, the project's, and the
one beside the document. A partial is named by its path in its directory, without the extension,
and a later layer replaces what an earlier one says under the same name.
-/

namespace RuleCompiler

structure PartialDirectories where
  global : Option Path := none
  project : Option Path := none
  deriving DecidableEq, Repr

namespace PartialDirectories

def projectDirectory (root : Path) : Path :=
  (root.join ".rulesets").join "partials"

/-- The user's directory: in the home of the rulesets, which lies in the user's home unless it is
given. -/
def globalDirectory (environment : Environment) : Option Path :=
  let home : Option Path := match environment.rulesetsHome with
    | some home => some ⟨home⟩
    | none => environment.home.map fun home => Path.join ⟨home⟩ ".config/rulesets"
  home.map fun home => home.join "partials"

def forProject (environment : Environment) (root : Path) : PartialDirectories :=
  { global := globalDirectory environment, project := some (projectDirectory root) }

def projectOnly (root : Path) : PartialDirectories :=
  { project := some (projectDirectory root) }

def besideDocument (source : Path) : Option Path :=
  source.parent?.map fun directory => directory.join "_partials"

/-- The layers for a document, the least specific first. -/
def layers (directories : PartialDirectories) (source : Option Path) : List Path :=
  [directories.global, directories.project, source.bind besideDocument].filterMap id

end PartialDirectories

namespace PartialFile

def extensions : List String :=
  ["hbs", "handlebars", "md"]

mutual

/-- The regular files below a directory, each with the names that lead to it, in the order of the
names. Links are not followed. -/
def below (lead : List String) : FileNode → List (List String)
  | .directory entries => belowEntries lead entries
  | .file _ => [lead]
  | .link _ => []

def belowEntries (lead : List String) : List (String × FileNode) → List (List String)
  | [] => []
  | (name, node) :: entries => below (lead ++ [name]) node ++ belowEntries lead entries

end

/-- The name of the partial in a file, if the file holds one. -/
def partialName? (names : List String) : Option String :=
  match names.reverse with
  | [] => none
  | last :: above =>
      match Path.splitExtension last with
      | (stem, some extension) =>
          if extensions.contains extension then
            let kept := if stem = "." && !above.isEmpty then above else stem :: above
            some (Path.joined kept.reverse)
          else none
      | (_, none) => none

def inDirectory (files : FileTree) (directory : Path) : List (String × Path) :=
  match files.stat directory with
  | .ok (.directory entries) =>
      (belowEntries [] entries).filterMap fun names =>
        (partialName? names).map fun name => (name, names.foldl Path.join directory)
  | _ => []

end PartialFile

namespace PartialDirectories

def register (wording : Wording) (partials : KeyedList String) (name : String) (path : Path) :
    StateM Workspace (KeyedList String) := do
  match (← get).files.readText path with
  | .ok text =>
      Workspace.say .debug ("Registered partial '" ++ name ++ "' from " ++ path.text)
      return partials.insert name text
  | .error cause =>
      Workspace.say .warn ("Skipping partial " ++ path.text ++ ": " ++ wording.io cause)
      return partials

def discover (wording : Wording) (directories : PartialDirectories) (source : Option Path) :
    StateM Workspace (KeyedList String) := do
  let files := (← get).files
  let found := (directories.layers source).flatMap (PartialFile.inDirectory files)
  found.foldlM (fun partials (name, path) => register wording partials name path) []

end PartialDirectories

end RuleCompiler
