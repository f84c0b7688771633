import RuleCompiler.FileTree.Basic
import RuleCompiler.Proofs.KeyedList

/-!
What putting a node into a tree changes. The surface of a node is the node without what a directory
holds; it is all that following a path can see. Putting a file, or an empty directory in a free
place, changes the surface at that place and nowhere else.
-/

namespace RuleCompiler

namespace FileNode

/-- A node without what it holds as a directory. -/
def surface : FileNode → FileNode
  | .directory _ => .directory []
  | .file contents => .file contents
  | .link target => .link target

theorem at?_append (node : FileNode) (names more : List String) :
    node.at? (names ++ more) = (node.at? names).bind fun inner => inner.at? more := by
  induction names generalizing node with
  | nil => rfl
  | cons name names ih =>
      simp only [List.cons_append, at?]
      cases node.child? name with
      | none => rfl
      | some inner => exact ih inner

theorem directory_of_at?_append {node found : FileNode} {names more : List String}
    (notHere : more ≠ []) (below : node.at? (names ++ more) = some found) :
    ∃ entries, node.at? names = some (.directory entries) := by
  rw [at?_append] at below
  obtain ⟨inner, atNames, under⟩ := Option.bind_eq_some_iff.mp below
  obtain ⟨name, rest, shape⟩ := List.exists_cons_of_ne_nil notHere
  rw [shape, at?] at under
  cases inner with
  | directory entries => exact ⟨entries, atNames⟩
  | file contents => cases under
  | link target => cases under

def surfaceAt? (node : FileNode) (names : List String) : Option FileNode :=
  (node.at? names).map surface

theorem surfaceAt?_cons_of_some {entries : List (String × FileNode)} {name : String}
    {inner : FileNode} (under : KeyedList.get? entries name = some inner) (names : List String) :
    (FileNode.directory entries).surfaceAt? (name :: names) = inner.surfaceAt? names := by
  simp only [surfaceAt?, at?, child?, under, Option.bind_some]

theorem surfaceAt?_directory_congr {first second : List (String × FileNode)}
    (alike : ∀ name names, (FileNode.directory first).surfaceAt? (name :: names) =
      (FileNode.directory second).surfaceAt? (name :: names)) (names : List String) :
    (FileNode.directory first).surfaceAt? names = (FileNode.directory second).surfaceAt? names := by
  cases names with
  | nil => rfl
  | cons name names => exact alike name names

theorem surfaceAt?_insert_of_ne {entries : List (String × FileNode)} {name other : String}
    (inserted : FileNode) (different : name ≠ other) (names : List String) :
    (FileNode.directory (KeyedList.insert entries name inserted)).surfaceAt? (other :: names) =
      (FileNode.directory entries).surfaceAt? (other :: names) := by
  simp only [surfaceAt?, at?, child?, KeyedList.get?_insert_of_ne entries inserted different]

theorem surfaceAt?_put_of_not_prefix (node : FileNode) (names : List String) (placed : FileNode)
    {other : List String} (away : ¬ names <+: other) :
    (node.put names placed).surfaceAt? other = node.surfaceAt? other := by
  induction names generalizing node other with
  | nil => exact absurd List.nil_prefix away
  | cons name names ih =>
      cases node with
      | file contents => cases names <;> rfl
      | link target => cases names <;> rfl
      | directory entries =>
          cases names with
          | nil =>
              cases other with
              | nil => rfl
              | cons first rest =>
                  have different : name ≠ first := by
                    intro same
                    rw [same] at away
                    exact away (List.prefix_cons_inj first |>.mpr List.nil_prefix)
                  exact surfaceAt?_insert_of_ne placed different rest
          | cons next names =>
              simp only [put]
              cases under : KeyedList.get? entries name with
              | none => rfl
              | some inner =>
                  cases other with
                  | nil => rfl
                  | cons first rest =>
                      by_cases same : name = first
                      · subst same
                        have awayBelow : ¬ next :: names <+: rest :=
                          fun below => away (List.prefix_cons_inj name |>.mpr below)
                        simp only
                        rw [surfaceAt?_cons_of_some (KeyedList.get?_insert_self _ _ _),
                          surfaceAt?_cons_of_some under]
                        exact ih inner awayBelow
                      · exact surfaceAt?_insert_of_ne _ same rest

theorem at?_put_self (node : FileNode) (names : List String) (placed : FileNode) :
    (node.put names placed).at? names = some placed ∨
      ∀ other, (node.put names placed).surfaceAt? other = node.surfaceAt? other := by
  induction names generalizing node with
  | nil => exact Or.inl rfl
  | cons name names ih =>
      cases node with
      | file contents => right; cases names <;> exact fun _ => rfl
      | link target => right; cases names <;> exact fun _ => rfl
      | directory entries =>
          cases names with
          | nil =>
              left
              simp only [put, at?, child?, KeyedList.get?_insert_self, Option.bind_some]
          | cons next rest =>
              simp only [put]
              cases under : KeyedList.get? entries name with
              | none => exact Or.inr fun _ => rfl
              | some inner =>
                  simp only
                  rcases ih inner with reached | unseen
                  · left
                    simp only [at?, child?, KeyedList.get?_insert_self, Option.bind_some]
                    exact reached
                  · right
                    apply surfaceAt?_directory_congr
                    intro first names
                    by_cases same : name = first
                    · subst same
                      rw [surfaceAt?_cons_of_some (KeyedList.get?_insert_self _ _ _),
                        surfaceAt?_cons_of_some under]
                      exact unseen names
                    · exact surfaceAt?_insert_of_ne _ same names

theorem at?_put_of_directory (node : FileNode) (above : List String) (name : String)
    (placed : FileNode) {entries : List (String × FileNode)}
    (isDirectory : node.at? above = some (.directory entries)) :
    (node.put (above ++ [name]) placed).at? (above ++ [name]) = some placed := by
  induction above generalizing node with
  | nil =>
      cases isDirectory
      simp only [List.nil_append, put, at?, child?, KeyedList.get?_insert_self, Option.bind_some]
  | cons first rest ih =>
      rw [at?] at isDirectory
      obtain ⟨inner, under, below⟩ := Option.bind_eq_some_iff.mp isDirectory
      obtain ⟨next, more, shape⟩ := List.exists_cons_of_ne_nil
        (List.append_ne_nil_of_right_ne_nil rest (List.cons_ne_nil name []))
      have onward := ih inner below
      rw [shape] at onward
      cases node with
      | file contents => cases under
      | link target => cases under
      | directory inside =>
          rw [child?] at under
          rw [List.cons_append, shape]
          simp only [put, under, at?, child?, KeyedList.get?_insert_self, Option.bind_some]
          exact onward

/-- Where nothing lies below a place, nothing does once a node that holds nothing is put there. -/
theorem surfaceAt?_put_of_ne (node : FileNode) {names other : List String} {placed : FileNode}
    (bare : ∀ more, more ≠ [] → placed.at? more = none)
    (hollow : ∀ more, more ≠ [] → node.at? (names ++ more) = none) (different : other ≠ names) :
    (node.put names placed).surfaceAt? other = node.surfaceAt? other := by
  by_cases below : names <+: other
  · obtain ⟨more, rfl⟩ := below
    have notHere : more ≠ [] := by
      intro here
      rw [here, List.append_nil] at different
      exact different rfl
    rcases at?_put_self node names placed with reached | unseen
    · unfold surfaceAt?
      rw [at?_append, reached, hollow more notHere, Option.bind_some, bare more notHere]
    · exact unseen (names ++ more)
  · exact surfaceAt?_put_of_not_prefix node names placed below

theorem put_put (node : FileNode) (names : List String) (first second : FileNode) :
    (node.put names first).put names second = node.put names second := by
  induction names generalizing node with
  | nil => rfl
  | cons name names ih =>
      cases node with
      | file contents => cases names <;> rfl
      | link target => cases names <;> rfl
      | directory entries =>
          cases names with
          | nil =>
              simp only [put]
              rw [KeyedList.insert_insert]
          | cons next rest =>
              simp only [put]
              cases under : KeyedList.get? entries name with
              | none => simp only [under]
              | some inner =>
                  simp only [KeyedList.get?_insert_self]
                  rw [ih inner, KeyedList.insert_insert]

theorem at?_wrapped (lead rest : List String) (node : FileNode) :
    (wrapped (lead ++ rest) node).at? lead = some (wrapped rest node) := by
  induction lead with
  | nil => rfl
  | cons name lead ih =>
      have under : (wrapped (name :: lead ++ rest) node).child? name =
          some (wrapped (lead ++ rest) node) := if_pos rfl
      rw [at?, under, Option.bind_some]
      exact ih

/-- Nothing lies in new directories but the directories. -/
theorem at?_wrapped_some {names other : List String} {found : FileNode}
    (seen : (wrapped names (.directory [])).at? other = some found) :
    other <+: names ∧ ∃ entries, found = .directory entries := by
  induction names generalizing other with
  | nil =>
      cases other with
      | nil =>
          cases seen
          exact ⟨List.prefix_rfl, [], rfl⟩
      | cons name rest => cases seen
  | cons first names ih =>
      cases other with
      | nil =>
          cases seen
          exact ⟨List.nil_prefix, _, rfl⟩
      | cons name rest =>
          rw [at?] at seen
          obtain ⟨inner, under, below⟩ := Option.bind_eq_some_iff.mp seen
          have isFirst : (if first = name then some (wrapped names (.directory [])) else none) =
              some inner := under
          split at isFirst
          · next same =>
              cases isFirst
              obtain ⟨onWay, isDirectory⟩ := ih below
              rw [same]
              exact ⟨(List.prefix_cons_inj name).mpr onWay, isDirectory⟩
          · cases isFirst

end FileNode

end RuleCompiler
