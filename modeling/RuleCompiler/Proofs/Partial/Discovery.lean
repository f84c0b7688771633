import Mathlib.Data.List.Basic
import Mathlib.Data.List.Lex
import RuleCompiler.Partial.Discovery
import RuleCompiler.Proofs.KeyedList

/-!
Discovering partials looks at the files and logs what it finds. It changes nothing else, and the
partials that it finds are a function of the files: what a name stands for is found layer by layer,
and in a layer by the order of the walk.
-/

namespace RuleCompiler

/-! ### The order of the walk -/

namespace FileNode

mutual

/-- Every directory has its entries in increasing order of their names. -/
def Increasing : FileNode → Prop
  | .directory entries => KeyedList.Ordered entries ∧ IncreasingBelow entries
  | .file _ => True
  | .link _ => True

def IncreasingBelow : List (String × FileNode) → Prop
  | [] => True
  | (_, node) :: entries => Increasing node ∧ IncreasingBelow entries

end

end FileNode

namespace PartialFile

mutual

theorem prefix_of_mem_below {lead names : List String} :
    (node : FileNode) → names ∈ below lead node → lead <+: names
  | .file _, member => by
      cases List.mem_singleton.mp member
      exact List.prefix_rfl
  | .directory entries, member => by
      obtain ⟨name, node, _, leads⟩ := prefix_of_mem_belowEntries entries member
      exact (List.prefix_append lead [name]).trans leads
  | .link _, member => nomatch member

theorem prefix_of_mem_belowEntries {lead names : List String} :
    (entries : List (String × FileNode)) → names ∈ belowEntries lead entries →
      ∃ name node, (name, node) ∈ entries ∧ lead ++ [name] <+: names
  | [], member => nomatch member
  | (name, node) :: entries, member => by
      rcases List.mem_append.mp member with atHead | inRest
      · exact ⟨name, node, List.mem_cons_self, prefix_of_mem_below node atHead⟩
      · obtain ⟨other, inner, inside, leads⟩ := prefix_of_mem_belowEntries entries inRest
        exact ⟨other, inner, List.mem_cons_of_mem _ inside, leads⟩

end

mutual

/-- The walk through a directory meets the files in the order of the names that lead to them. -/
theorem pairwise_below (lead : List String) :
    (node : FileNode) → node.Increasing → (below lead node).Pairwise (List.Lex (· < ·))
  | .file _, _ => List.pairwise_singleton _ _
  | .directory entries, increasing => pairwise_belowEntries lead entries increasing.1 increasing.2
  | .link _, _ => List.Pairwise.nil

theorem pairwise_belowEntries (lead : List String) :
    (entries : List (String × FileNode)) → KeyedList.Ordered entries →
      FileNode.IncreasingBelow entries →
      (belowEntries lead entries).Pairwise (List.Lex (· < ·))
  | [], _, _ => List.Pairwise.nil
  | (name, node) :: entries, ordered, increasing => by
      have headTail := List.pairwise_cons.mp ordered
      refine List.pairwise_append.mpr ⟨pairwise_below _ node increasing.1,
        pairwise_belowEntries lead entries headTail.2 increasing.2, ?_⟩
      intro names atHead others inRest
      obtain ⟨rest, rfl⟩ := prefix_of_mem_below node atHead
      obtain ⟨other, inner, inside, otherRest, rfl⟩ := prefix_of_mem_belowEntries entries inRest
      rw [List.append_assoc, List.append_assoc]
      exact List.Lex.append_left _ (List.Lex.rel (headTail.1 _ inside)) lead

end

end PartialFile

namespace PartialDirectories

/-- The partials once a file is read into them; a file that cannot be read leaves them. -/
def readInto (files : FileTree) (partials : KeyedList String) (name : String) (path : Path) :
    KeyedList String :=
  match files.readText path with
  | .ok text => partials.insert name text
  | .error _ => partials

def discovered (directories : PartialDirectories) (source : Option Path) (files : FileTree) :
    KeyedList String :=
  ((directories.layers source).flatMap (PartialFile.inDirectory files)).foldl
    (fun partials (name, path) => readInto files partials name path) []

theorem register_run (wording : Wording) (partials : KeyedList String) (name : String)
    (path : Path) (workspace : Workspace) :
    ∃ log, register wording partials name path workspace =
      (readInto workspace.files partials name path, { workspace with log }) := by
  unfold readInto
  change ∃ log, (match workspace.files.readText path with
    | .ok text => _
    | .error cause => _ : StateM Workspace (KeyedList String)) workspace = _
  cases workspace.files.readText path with
  | ok text => exact ⟨_, rfl⟩
  | error cause => exact ⟨_, rfl⟩

theorem registerAll_run (wording : Wording) (found : List (String × Path))
    (partials : KeyedList String) (workspace : Workspace) :
    ∃ log, (found.foldlM (fun partials (name, path) => register wording partials name path)
        partials : StateM Workspace (KeyedList String)) workspace =
      (found.foldl (fun partials (name, path) => readInto workspace.files partials name path)
        partials, { workspace with log }) := by
  induction found generalizing partials workspace with
  | nil => exact ⟨workspace.log, rfl⟩
  | cons first rest ih =>
      obtain ⟨name, path⟩ := first
      obtain ⟨told, registered⟩ := register_run wording partials name path workspace
      obtain ⟨log, continued⟩ := ih (readInto workspace.files partials name path)
        { workspace with log := told }
      refine ⟨log, ?_⟩
      rw [List.foldlM_cons]
      change (rest.foldlM (fun partials (name, path) => register wording partials name path)
        (register wording partials name path workspace).1 : StateM Workspace (KeyedList String))
          (register wording partials name path workspace).2 = _
      rw [registered]
      exact continued

theorem discover_run (wording : Wording) (directories : PartialDirectories) (source : Option Path)
    (workspace : Workspace) :
    ∃ log, directories.discover wording source workspace =
      (directories.discovered source workspace.files, { workspace with log }) :=
  registerAll_run wording
    ((directories.layers source).flatMap (PartialFile.inDirectory workspace.files)) [] workspace

/-! ### Looking up a name -/

/-- What a directory holds under a name: the text of the last file of that name on the walk through
the directory that can be read. -/
def inLayer? (files : FileTree) (name : String) (directory : Path) : Option String :=
  ((PartialFile.inDirectory files directory).filterMap fun (other, path) =>
    if other = name then (files.readText path).toOption else none).getLast?

/-- What the directories hold under a name for a document: the one beside it, or else the
project's, or else the user's. -/
def lookup? (directories : PartialDirectories) (source : Option Path) (files : FileTree)
    (name : String) : Option String :=
  [source.bind besideDocument, directories.project, directories.global].findSome? fun layer =>
    layer.bind (inLayer? files name)

end PartialDirectories

end RuleCompiler
