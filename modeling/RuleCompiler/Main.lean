import RuleCompiler.CommandLine.Run
import RuleCompiler.CommandLine.Stamp
import RuleCompiler.FileTree.Change
import Std.Time.DateTime

/-!
The program. It takes what the command reads into a file tree, runs the command on it, and writes
what has changed. Where the command would change a path that was not taken yet, the path is taken
and the command runs again from the start.
-/

namespace RuleCompiler.CommandLine

/-- What lies at a path; a directory with everything in it if `whole`. A link in such a directory
stays a link. -/
partial def take (whole : Bool) (path : String) : IO (Option FileNode) := do
  let found ← try some <$> IO.FS.realPath path catch _ => pure none
  let some place := found | return none
  if ← place.isDir then
    if !whole then return some (.directory [])
    let mut entries : List (String × FileNode) := []
    for entry in ← place.readDir do
      let inside := (Path.join ⟨place.toString⟩ entry.fileName).text
      let target ← try toString <$> IO.FS.realPath inside catch _ => pure ""
      if target = inside then
        if let some node ← take true inside then
          entries := KeyedList.insert entries entry.fileName node
      else
        entries := KeyedList.insert entries entry.fileName (.link target)
    return some (.directory entries)
  return some (.file (.ofBytes (← IO.FS.readBinFile place).toList))

def takeInto (whole : Bool) (files : FileTree) (path : Path) : IO FileTree := do
  match ← take whole path.text with
  | some node => return files.plant (files.absolutize path).names node
  | none => return files

/-- The paths that the arguments name, and the directories that are read whole. -/
def reads (environment : Environment) (arguments : List String) : List Path × List Path :=
  match read arguments with
  | .ok (.run (.compile given)) =>
      let root : Path := ⟨given.root.getD "."⟩
      let files := given.files.map Path.mk
      (⟨"."⟩ :: root :: (given.config.toList.map Path.mk ++ files),
        root.join ".rulesets" ::
          ((PartialDirectories.globalDirectory environment).toList ++
            files.filterMap PartialDirectories.besideDocument))
  | _ => ([], [])

/-- Run the command until it changes nothing but paths that were taken. -/
partial def settle (run : FileTree → Ending × FileTree) (taken : List String) (files : FileTree) :
    IO (Ending × List (String × Option FileEntry)) := do
  let (ending, after) := run files
  let changes := files.root.changes after.root
  let fresh := changes.filter fun (path, _) => !taken.contains path
  if fresh.isEmpty then return (ending, changes)
  let mut known := files
  for (path, _) in fresh do
    known ← takeInto false known ⟨"/" ++ path⟩
  settle run (taken ++ fresh.map Prod.fst) known

/-- Write a change. A file is written beside its path and moved there. -/
def apply (change : String × Option FileEntry) : IO Unit := do
  let path := "/" ++ change.1
  match change.2 with
  | some .directory => IO.FS.createDirAll path
  | some (.file (.text text)) =>
      IO.FS.writeFile (path ++ ".tmp") text
      IO.FS.rename (path ++ ".tmp") path
  | _ => return

def newStamp : IO RunStamp := do
  let now ← Std.Time.Timestamp.now
  return RunStamp.ofClock now.toNanosecondsSinceUnixEpoch.val.toNat
    (← IO.getRandomBytes 16).toList

def runProgram (arguments : List String) : IO UInt32 := do
  let environment : Environment :=
    { rulesetsHome := ← IO.getEnv "RULESETS_HOME", home := ← IO.getEnv "HOME" }
  let here : Path := ⟨(← IO.currentDir).toString⟩
  let stamps ← arguments.mapM fun _ => newStamp
  let (named, whole) := reads environment arguments
  let mut files : FileTree := { workingDirectory := here.names }
  for path in named do files ← takeInto false files path
  for path in whole do files ← takeInto true files path
  let stamp := fun place => stamps.getD place ⟨"", ""⟩
  let (ending, changes) ← settle
    (fun files =>
      let (ending, after) := run environment .plain stamp arguments { files }
      (ending, after.files))
    [] files
  changes.forM apply
  IO.print ending.output
  IO.eprint ending.complaint
  return ending.exitCode.toUInt32

end RuleCompiler.CommandLine

def main (arguments : List String) : IO UInt32 :=
  RuleCompiler.CommandLine.runProgram arguments
