import RuleCompiler.FileTree.Basic

/-!
Following a path. Every segment but the last has to lead into a directory, `..` leads to the
directory above, and a link leads on from where it stands. At most forty links are followed.
-/

namespace RuleCompiler

inductive IoError where
  | notFound
  | notADirectory
  | alreadyExists
  | isADirectory
  | invalidFilename
  | invalidData
  | invalidInput
  | filesystemLoop
  deriving DecidableEq, Repr

/-- Where a path leads: to a node, or to a free place in a directory. `slash` tells whether the
path of a free place ends in a slash. -/
inductive Place where
  | taken (names : List String) (node : FileNode)
  | free (names : List String) (slash : Bool)

namespace FileTree

def maxNameBytes : Nat := 255

def maxPathBytes : Nat := 4095

def maxLinks : Nat := 40

/-- Follow segments from the directory at `stack`, the names that lead there in reverse. The last
link is followed only if `followLast`; `onward` goes on where a link leads to. -/
def followSegments (tree : FileTree) (followLast : Bool)
    (onward : List String → List String → Except IoError Place) (stack : List String)
    (segments : List String) : Except IoError Place :=
  match segments with
  | [] =>
      match tree.at? stack.reverse with
      | some node => .ok (.taken stack.reverse node)
      | none => .error .notFound
  | segment :: rest =>
      if Path.isIdle segment then followSegments tree followLast onward stack rest
      else if segment = ".." then followSegments tree followLast onward stack.tail rest
      else if segment.utf8ByteSize > maxNameBytes then .error .invalidFilename
      else
        match tree.at? (segment :: stack).reverse with
        | none =>
            if rest.all (· == "") then .ok (.free (segment :: stack).reverse (!rest.isEmpty))
            else .error .notFound
        | some (.directory _) => followSegments tree followLast onward (segment :: stack) rest
        | some (.file contents) =>
            if rest.isEmpty then .ok (.taken (segment :: stack).reverse (.file contents))
            else .error .notADirectory
        | some (.link target) =>
            if rest.isEmpty && !followLast then
              .ok (.taken (segment :: stack).reverse (.link target))
            else
              onward (if (Path.mk target).isAbsolute then [] else stack)
                ((Path.mk target).segments ++ rest)

/-- Follow segments, and so many links on the way. -/
def follow (tree : FileTree) (followLast : Bool) :
    (links : Nat) → (stack segments : List String) → Except IoError Place
  | 0 => tree.followSegments followLast fun _ _ => .error .filesystemLoop
  | links + 1 => tree.followSegments followLast (follow tree followLast links)

def locate (tree : FileTree) (followLast : Bool) (path : Path) : Except IoError Place :=
  if path.text.toList.contains '\x00' then .error .invalidInput
  else if path.text = "" then .error .notFound
  else if path.text.utf8ByteSize > maxPathBytes then .error .invalidFilename
  else
    let start := if path.isAbsolute then [] else tree.workingDirectory.reverse
    follow tree followLast maxLinks start path.segments

end FileTree

end RuleCompiler
