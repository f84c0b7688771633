import RuleCompiler.Proofs.FileTree.Locate

/-!
The way of a path: all the places that following it can pass, in a tree as it is and once
directories were made and files written in it. It is read off the links of the tree, and goes on
past what is missing as past a directory. What lies above a normalized path has a shorter way.
-/

namespace RuleCompiler

namespace FileTree

/-! ### Places -/

/-- One of these places, or something below one. -/
def Inside (places : List (List String)) (names : List String) : Prop :=
  ∃ place ∈ places, place <+: names

instance (places : List (List String)) (names : List String) : Decidable (Inside places names) :=
  inferInstanceAs (Decidable (∃ place ∈ places, place <+: names))

variable {places : List (List String)}

theorem Inside.below {lead names : List String} (inside : Inside places lead)
    (onWay : lead <+: names) : Inside places names := by
  obtain ⟨place, member, above⟩ := inside
  exact ⟨place, member, above.trans onWay⟩

/-! ### Ways -/

section Way

variable (tree : FileTree)

/-- The places that a walk passes from the directory at `stack`: where it stands, and where its
segments would lead if there were a directory wherever there is no link. -/
def stopsAlong (onward : List String → List String → List (List String)) (stack : List String)
    (segments : List String) : List (List String) :=
  stack.reverse ::
    match segments with
    | [] => []
    | segment :: rest =>
        if Path.isIdle segment then stopsAlong onward stack rest
        else if segment = ".." then stopsAlong onward stack.tail rest
        else
          match tree.at? (segment :: stack).reverse with
          | some (.link target) =>
              (segment :: stack).reverse ::
                onward (if (Path.mk target).isAbsolute then [] else stack)
                  ((Path.mk target).segments ++ rest)
          | _ => stopsAlong onward (segment :: stack) rest

def stops : (links : Nat) → (stack segments : List String) → List (List String)
  | 0 => tree.stopsAlong fun _ _ => []
  | links + 1 => tree.stopsAlong (stops links)

/-- The places that a path passes, its last link followed. -/
def way (path : Path) : List (List String) :=
  tree.stops maxLinks (if path.isAbsolute then [] else tree.workingDirectory.reverse) path.segments

def Avoids (places : List (List String)) (path : Path) : Prop :=
  ∀ names ∈ tree.way path, ¬ Inside places names

instance (places : List (List String)) (path : Path) : Decidable (tree.Avoids places path) :=
  inferInstanceAs (Decidable (∀ names ∈ tree.way path, ¬ Inside places names))

end Way

section Stops

variable {tree : FileTree} {onward : List String → List String → List (List String)}
  {stack rest : List String} {segment : String}

theorem stopsAlong_idle (idle : Path.isIdle segment = true) :
    tree.stopsAlong onward stack (segment :: rest) =
      stack.reverse :: tree.stopsAlong onward stack rest := by
  rw [stopsAlong]
  rw [if_pos idle]

theorem stopsAlong_up :
    tree.stopsAlong onward stack (".." :: rest) =
      stack.reverse :: tree.stopsAlong onward stack.tail rest := by
  have notIdle : Path.isIdle ".." = false := rfl
  rw [stopsAlong]
  rw [notIdle, if_neg Bool.false_ne_true, if_pos rfl]

theorem stopsAlong_link (notIdle : Path.isIdle segment = false) (notUp : segment ≠ "..")
    {target : String} (found : tree.at? (segment :: stack).reverse = some (.link target)) :
    tree.stopsAlong onward stack (segment :: rest) =
      stack.reverse :: (segment :: stack).reverse ::
        onward (if (Path.mk target).isAbsolute then [] else stack)
          ((Path.mk target).segments ++ rest) := by
  rw [stopsAlong]
  rw [notIdle, if_neg Bool.false_ne_true, if_neg notUp, found]

theorem stopsAlong_into (notIdle : Path.isIdle segment = false) (notUp : segment ≠ "..")
    (noLink : ∀ target, tree.at? (segment :: stack).reverse ≠ some (.link target)) :
    tree.stopsAlong onward stack (segment :: rest) =
      stack.reverse :: tree.stopsAlong onward (segment :: stack) rest := by
  rw [stopsAlong]
  rw [notIdle, if_neg Bool.false_ne_true, if_neg notUp]
  split
  · next target found => exact absurd found (noLink target)
  · rfl

theorem mem_stopsAlong_here (segments : List String) :
    stack.reverse ∈ tree.stopsAlong onward stack segments := by
  rw [stopsAlong.eq_def]
  exact List.mem_cons_self

/-- A walk passes the entry that its first segment names. -/
theorem mem_stopsAlong_entry (notIdle : Path.isIdle segment = false) (notUp : segment ≠ "..") :
    (segment :: stack).reverse ∈ tree.stopsAlong onward stack (segment :: rest) := by
  by_cases isLink : ∃ target, tree.at? (segment :: stack).reverse = some (.link target)
  · obtain ⟨target, found⟩ := isLink
    rw [stopsAlong_link notIdle notUp found]
    exact List.mem_cons_of_mem _ List.mem_cons_self
  · rw [stopsAlong_into notIdle notUp (not_exists.mp isLink)]
    exact List.mem_cons_of_mem _ (mem_stopsAlong_here rest)

/-- The way of a longer path goes past every place that the way of a shorter one passes. -/
theorem stopsAlong_append (more : List String)
    (longer : ∀ {stack segments names}, names ∈ onward stack segments →
      names ∈ onward stack (segments ++ more))
    {segments stack names : List String}
    (passes : names ∈ tree.stopsAlong onward stack segments) :
    names ∈ tree.stopsAlong onward stack (segments ++ more) := by
  induction segments generalizing stack with
  | nil =>
      rw [stopsAlong, List.mem_singleton] at passes
      rw [passes]
      exact mem_stopsAlong_here _
  | cons segment rest ih =>
      rw [List.cons_append]
      by_cases idle : Path.isIdle segment = true
      · rw [stopsAlong_idle idle] at passes ⊢
        exact List.mem_cons.mpr ((List.mem_cons.mp passes).imp id ih)
      · have notIdle := Bool.eq_false_iff.mpr idle
        by_cases up : segment = ".."
        · rw [up, stopsAlong_up] at passes ⊢
          exact List.mem_cons.mpr ((List.mem_cons.mp passes).imp id ih)
        · by_cases isLink : ∃ target, tree.at? (segment :: stack).reverse = some (.link target)
          · obtain ⟨target, found⟩ := isLink
            rw [stopsAlong_link notIdle up found] at passes ⊢
            rw [← List.append_assoc]
            refine List.mem_cons.mpr ((List.mem_cons.mp passes).imp id fun onLink => ?_)
            exact List.mem_cons.mpr ((List.mem_cons.mp onLink).imp id longer)
          · have noLink := not_exists.mp isLink
            rw [stopsAlong_into notIdle up noLink] at passes ⊢
            exact List.mem_cons.mpr ((List.mem_cons.mp passes).imp id ih)

theorem stops_append (more : List String) (links : Nat) {stack segments names : List String}
    (passes : names ∈ tree.stops links stack segments) :
    names ∈ tree.stops links stack (segments ++ more) := by
  induction links generalizing stack segments names with
  | zero => exact stopsAlong_append more (fun nowhere => absurd nowhere List.not_mem_nil) passes
  | succ links ih => exact stopsAlong_append more ih passes

theorem mem_stops_here (links : Nat) (segments : List String) :
    stack.reverse ∈ tree.stops links stack segments := by
  cases links with
  | zero => exact mem_stopsAlong_here segments
  | succ links => exact mem_stopsAlong_here segments

/-- A path that avoids some places is below paths that do. -/
theorem Avoids.above {names lead : List String} (areNames : Path.AreNames names)
    (avoids : tree.Avoids places (Path.ofNames true names)) (onWay : lead <+: names) :
    tree.Avoids places (Path.ofNames true lead) := by
  have areLead : Path.AreNames lead := fun name inside => areNames name (onWay.subset inside)
  have start : ∀ others, (if (Path.ofNames true others).isAbsolute then []
      else tree.workingDirectory.reverse) = [] := by
    intro others
    rw [Path.isAbsolute_ofNames, if_pos rfl]
  unfold Avoids way at avoids ⊢
  rw [start, Path.segments_ofNames areNames] at avoids
  rw [start, Path.segments_ofNames areLead]
  intro stop passes
  by_cases empty : lead = []
  · -- the way of the root stays at the root
    rw [if_pos empty] at passes
    unfold maxLinks stops at passes
    rw [stopsAlong_idle Path.isIdle_empty, stopsAlong_idle Path.isIdle_empty, stopsAlong] at passes
    have atRoot : stop = [] := by
      rcases List.mem_cons.mp passes with here | later
      · exact here
      · rcases List.mem_cons.mp later with here | later
        · exact here
        · exact List.mem_singleton.mp later
    rw [atRoot]
    exact avoids [] (mem_stops_here maxLinks _)
  · obtain ⟨more, rfl⟩ := onWay
    rw [if_neg empty] at passes
    rw [if_neg fun whole => empty (List.append_eq_nil_iff.mp whole).1] at avoids
    exact avoids stop (stops_append more maxLinks passes)

end Stops

end FileTree

end RuleCompiler
