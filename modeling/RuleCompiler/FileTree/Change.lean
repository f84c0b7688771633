import RuleCompiler.FileTree.Basic

/-!
What differs between two trees. A tree is listed as the paths below it, each with what lies there;
the path of a directory ends in a slash.
-/

namespace RuleCompiler

inductive FileEntry where
  | file (contents : FileContents)
  | directory
  | link (target : String)
  deriving DecidableEq, Repr

namespace FileNode

mutual

/-- A node and everything below it. -/
def listing (path : String) : FileNode → List (String × FileEntry)
  | .file contents => [(path, .file contents)]
  | .link target => [(path, .link target)]
  | .directory entries => (path ++ "/", .directory) :: listingBelow (path ++ "/") entries

def listingBelow (lead : String) : (entries : List (String × FileNode)) → List (String × FileEntry)
  | [] => []
  | (name, node) :: entries => listing (lead ++ name) node ++ listingBelow lead entries

end

def contentListing : FileNode → List (String × FileEntry)
  | .directory entries => listingBelow "" entries
  | _ => []

/-- The paths whose entries differ, each with its entry afterwards. -/
def changes (before after : FileNode) : List (String × Option FileEntry) :=
  let old := before.contentListing
  let new := after.contentListing
  let gone := old.filterMap fun (path, _) =>
    if (new.lookup path).isSome then none else some (path, none)
  let different := new.filterMap fun (path, entry) =>
    if old.lookup path = some entry then none else some (path, some entry)
  gone ++ different

end FileNode

end RuleCompiler
