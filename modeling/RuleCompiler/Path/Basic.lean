import RuleCompiler.Text.Piece

/-!
Paths as text: names that are not UTF-8 are left out of account, with what becomes of a document that
has such a path. The segments of a path lie between its slashes; empty segments and `.` name nothing
of their own, except that a relative path may start with `.`. Nothing here looks at files.
-/

namespace RuleCompiler

structure Path where
  text : String
  deriving DecidableEq, Repr

inductive PathPart where
  | root
  | here
  | up
  | name (text : String)
  deriving DecidableEq, Repr

namespace Path

def isAbsolute (path : Path) : Bool :=
  path.text.toList.head? == some '/'

def segments (path : Path) : List String :=
  Text.pieces '/' path.text

/-- A segment that leads nowhere else. -/
def isIdle (segment : String) : Bool :=
  segment == "" || segment == "."

/-- The segments that lead somewhere, `..` among them. -/
def steps (path : Path) : List String :=
  path.segments.filter fun segment => !isIdle segment

def partOf (step : String) : PathPart :=
  if step = ".." then .up else .name step

def parts (path : Path) : List PathPart :=
  let lead :=
    if path.isAbsolute then [.root]
    else if path.segments.head? = some "." then [.here]
    else []
  lead ++ path.steps.map partOf

/-- The name at the end; a path that ends in `..` or is empty has none. -/
def fileName? (path : Path) : Option String :=
  match path.parts.getLast? with
  | some (.name name) => some name
  | _ => none

def joined (segments : List String) : String :=
  String.intercalate "/" segments

def dropIdle (segments : List String) : List String :=
  (segments.reverse.dropWhile isIdle).reverse

/-- The path without its last part, its text kept up to there. -/
def parent? (path : Path) : Option Path :=
  let (lead, kept, rest) :=
    match path.isAbsolute, path.segments with
    | true, segments => ("/", [], segments.drop 1)
    | false, "." :: segments => ("", ["."], segments)
    | false, segments => ("", [], segments)
  match dropIdle rest, kept with
  | [], [] => none
  | [], _ => some ⟨""⟩
  | steps, _ => some ⟨lead ++ joined (kept ++ dropIdle steps.dropLast)⟩

/-- Cut a file name at its last dot. A name that has none, or none after its first character, is
all stem. -/
def splitExtension (name : String) : String × Option String :=
  match Text.cutAt '.' name.toList.reverse with
  | some (after, c :: before) =>
      (String.ofList (c :: before).reverse, some (String.ofList after.reverse))
  | _ => (name, none)

def stem? (path : Path) : Option String :=
  path.fileName?.map fun name => (splitExtension name).1

def extension? (path : Path) : Option String :=
  path.fileName?.bind fun name => (splitExtension name).2

/-- `tail` below `path`; an absolute `tail` stands alone. -/
def join (path : Path) (tail : String) : Path :=
  if tail.toList.head? = some '/' then ⟨tail⟩
  else if path.text = "" || path.text.toList.getLast? = some '/' then ⟨path.text ++ tail⟩
  else ⟨path.text ++ "/" ++ tail⟩

/-- One step on a stack of names, the last on top: `..` takes a name off, and does nothing when
there is none. -/
def walk (stack : List String) (segment : String) : List String :=
  if isIdle segment then stack
  else if segment = ".." then stack.tail
  else segment :: stack

/-- The names that are left once every `..` has taken off the name before it. -/
def names (path : Path) : List String :=
  (path.segments.foldl walk []).reverse

def ofNames (absolute : Bool) (names : List String) : Path :=
  ⟨(if absolute then "/" else "") ++ joined names⟩

/-- The same path without idle segments and without `..`. -/
def normalize (path : Path) : Path :=
  ofNames path.isAbsolute path.names

/-- The path as seen from the working directory, normalized. -/
def absolutize (path workingDirectory : Path) : Path :=
  normalize (workingDirectory.join path.text)

/-- What follows `lead` in a list that starts with it. -/
def afterNames : (lead names : List String) → Option (List String)
  | [], names => some names
  | _ :: _, [] => none
  | l :: lead, n :: names => if l = n then afterNames lead names else none

/-- The path from `root`, or the whole path when it lies outside. -/
def relativeLabel (path workingDirectory root : Path) : String :=
  let path := path.absolutize workingDirectory
  let root := root.absolutize workingDirectory
  match afterNames root.names path.names with
  | some rest => joined rest
  | none => path.text

end Path

end RuleCompiler
