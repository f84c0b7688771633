import RuleCompiler.FileTree.Locate

/-!
Looking at files and changing them. A change is a function from trees to trees that may fail, because
of what the tree holds or because the system refuses it; what was changed before a failure stays
changed.
-/

namespace RuleCompiler

inductive ChangeError where
  | io (cause : IoError)
  | refused (refusal : Refusal)
  deriving DecidableEq, Repr

namespace FileTree

/-- The node that a path leads to, links followed. -/
def stat (tree : FileTree) (path : Path) : Except IoError FileNode :=
  match tree.locate true path with
  | .ok (.taken _ node) => .ok node
  | .ok (.free ..) => .error .notFound
  | .error failure => .error failure

def isDirectory (tree : FileTree) (path : Path) : Bool :=
  match tree.stat path with
  | .ok (.directory _) => true
  | _ => false

def isFile (tree : FileTree) (path : Path) : Bool :=
  match tree.stat path with
  | .ok (.file _) => true
  | _ => false

def readText (tree : FileTree) (path : Path) : Except IoError String :=
  match tree.stat path with
  | .ok (.file (.text text)) => .ok text
  | .ok (.file (.binary _)) => .error .invalidData
  | .ok (.directory _) => .error .isADirectory
  | .ok (.link _) => .error .notFound
  | .error failure => .error failure

/-- Make one directory in a directory that exists. -/
def createDirectory (tree : FileTree) (path : Path) : Except IoError FileTree :=
  match tree.locate false path with
  | .ok (.taken ..) => .error .alreadyExists
  | .ok (.free names _) => .ok (tree.put names (.directory []))
  | .error failure => .error failure

/-- What comes of a change that the tree takes or does not take: the system may still refuse it. -/
def permitted (tree : FileTree) (change : FileChange) (path : Path)
    (changed : Except IoError FileTree) : Except ChangeError FileTree :=
  match changed, tree.host.refusal? change path with
  | .error cause, _ => .error (.io cause)
  | .ok _, some refusal => .error (.refused refusal)
  | .ok changed, none => .ok changed

def makeDirectory (tree : FileTree) (path : Path) : Except ChangeError FileTree :=
  tree.permitted .makeDirectory path (tree.createDirectory path)

/-- The path and the paths above it, the nearest first. -/
def ancestors (fuel : Nat) (path : Path) : List Path :=
  match fuel, path.parent? with
  | fuel + 1, some parent => path :: ancestors fuel parent
  | _, _ => [path]

/-- Make the first of these directories, after those above it where they are missing. -/
def createAll (tree : FileTree) : (paths : List Path) → Except ChangeError Unit × FileTree
  | [] => (.error (.io .notFound), tree)
  | path :: above =>
      if path.text = "" then (.ok (), tree)
      else
        let settle := fun (tree : FileTree) (failure : ChangeError) =>
          if tree.isDirectory path then (.ok (), tree) else (.error failure, tree)
        match tree.makeDirectory path with
        | .ok made => (.ok (), made)
        | .error (.io .notFound) =>
            match createAll tree above with
            | (.ok (), tree) =>
                match tree.makeDirectory path with
                | .ok made => (.ok (), made)
                | .error failure => settle tree failure
            | (.error failure, tree) => (.error failure, tree)
        | .error failure => settle tree failure

def createDirectories (tree : FileTree) (path : Path) : Except ChangeError Unit × FileTree :=
  tree.createAll (ancestors path.text.length path)

/-- Put contents into a file, which is made if there is none. A link is written through. -/
def write (tree : FileTree) (path : Path) (contents : FileContents) : Except IoError FileTree :=
  match tree.locate true path with
  | .ok (.taken names (.file _)) => .ok (tree.put names (.file contents))
  | .ok (.taken ..) => .error .isADirectory
  | .ok (.free names slash) =>
      if slash then .error .isADirectory else .ok (tree.put names (.file contents))
  | .error failure => .error failure

/-- Move a new file with these contents to a path, in place of the file or link there. -/
def moveInto (tree : FileTree) (path : Path) (contents : FileContents) : Except IoError FileTree :=
  match tree.locate false path with
  | .ok (.taken _ (.directory _)) => .error .isADirectory
  | .ok (.taken names _) => .ok (tree.put names (.file contents))
  | .ok (.free names slash) =>
      if slash then .error .notADirectory else .ok (tree.put names (.file contents))
  | .error failure => .error failure

/-- How far contents get that are written into an open file: what is there at the end, and whether
the system broke off. -/
def reach (tree : FileTree) (path : Path) (contents : FileContents) :
    FileContents × Except ChangeError Unit :=
  match tree.host.breakOff? path with
  | none => (contents, .ok ())
  | some (count, refusal) => (contents.beginning count, .error (.refused refusal))

/-- Open a file and write contents into it. Where the system breaks off, the file holds what was
written until then. -/
def overwrite (tree : FileTree) (path : Path) (contents : FileContents) :
    Except ChangeError Unit × FileTree :=
  let (reached, answer) := tree.reach path contents
  match tree.permitted .openFile path (tree.write path reached) with
  | .ok changed => (answer, changed)
  | .error failure => (.error failure, tree)

/-- Rename a finished file with these contents to a path. -/
def replace (tree : FileTree) (path : Path) (contents : FileContents) :
    Except ChangeError Unit × FileTree :=
  match tree.permitted .rename path (tree.moveInto path contents) with
  | .ok changed => (.ok (), changed)
  | .error failure => (.error failure, tree)

end FileTree

end RuleCompiler
