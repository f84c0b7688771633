import RuleCompiler.Artifact.Basic
import RuleCompiler.Digest.Sha256
import RuleCompiler.Wording
import RuleCompiler.Workspace

/-!
Persisting texts. A file that holds the text already is left alone; otherwise the directories above
it are made and the file is written, either in place or by moving a finished file to its path.
-/

namespace RuleCompiler

inductive FileOperation where
  | stat
  | createDirectory
  | read
  | write
  | rename
  deriving DecidableEq, Repr

inductive WriteCause where
  | io (cause : IoError)
  | refused (refusal : Refusal)
  /-- The temporary file with this path failed. -/
  | temporary (path : Path) (cause : ChangeError)
  | relativePath
  /-- Something that is not a file has the path. -/
  | notAFile
  deriving DecidableEq, Repr

structure WriteError where
  operation : FileOperation
  path : Path
  cause : WriteCause
  deriving DecidableEq, Repr

inductive WriteMode where
  /-- In place. -/
  | direct
  /-- By a temporary file in the same directory, moved to the path. -/
  | atomic
  deriving DecidableEq, Repr

def WriteCause.ofChange : ChangeError → WriteCause
  | .io cause => .io cause
  | .refused refusal => .refused refusal

def FileOperation.words : FileOperation → String
  | .stat => "stat"
  | .createDirectory => "create directory"
  | .read => "read"
  | .write => "write"
  | .rename => "rename"

def WriteCause.message (wording : Wording) : WriteCause → String
  | .io cause => wording.io cause
  | .refused refusal => wording.refusal refusal
  | .temporary path (.io cause) => wording.temporary path (wording.io cause)
  | .temporary path (.refused refusal) => wording.temporary path (wording.refusal refusal)
  | .relativePath => "output path is not absolute"
  | .notAFile => "target exists and is not a file"

def WriteError.message (wording : Wording) (failure : WriteError) : String :=
  "Failed to " ++ failure.operation.words ++ " " ++ failure.path.text ++ ": " ++
    failure.cause.message wording

namespace Persist

/-- The text at a path: none where there is no file or the file holds no text. -/
def existing? (files : FileTree) (path : Path) : Except WriteError (Option String) :=
  match files.stat path with
  | .ok (.file (.text text)) => .ok (some text)
  | .ok (.file (.binary _)) => .ok none
  | .ok _ => .error { operation := .stat, path, cause := .notAFile }
  | .error .notFound => .ok none
  | .error cause => .error { operation := .stat, path, cause := .io cause }

/-- Change the files; a failure is one of `operation` at `path`. -/
def change (operation : FileOperation) (path : Path)
    (action : FileTree → Except ChangeError Unit × FileTree) : Action WriteError Unit :=
  fun workspace =>
    match action workspace.files with
    | (.ok (), files) => (.ok (), { workspace with files })
    | (.error cause, files) =>
        (.error { operation, path, cause := .ofChange cause }, { workspace with files })

def directoryOf (path : Path) : Path :=
  path.parent?.getD ⟨"/"⟩

/-- The path of the temporary file for a path, in the same directory. -/
def temporaryPath (files : FileTree) (path : Path) : Path :=
  (directoryOf path).join (files.host.temporaryName path).text

def fitsTemporary (files : FileTree) (path : Path) : Bool :=
  (temporaryPath files path).text.utf8ByteSize ≤ FileTree.maxPathBytes

/-- Write a temporary file for a path, in a directory that exists. The file is not seen in the files
afterwards: it is moved to the path, or it is removed. -/
def fillTemporary (files : FileTree) (path : Path) : Except WriteError Unit :=
  let temporary := temporaryPath files path
  let failed := fun (place : Path) (cause : ChangeError) =>
    { operation := .write, path := place, cause := .temporary temporary cause : WriteError }
  if !fitsTemporary files path then .error (failed (directoryOf path) (.io .invalidFilename))
  else
    match files.host.refusal? .openFile temporary, files.host.breakOff? temporary with
    | some refusal, _ => .error (failed (directoryOf path) (.refused refusal))
    | none, some (_, refusal) => .error (failed temporary (.refused refusal))
    | none, none => .ok ()

/-- Put the text at the path, in a directory that exists. -/
def place (mode : WriteMode) (path : Path) (contents : String) : Action WriteError Unit :=
  match mode with
  | .direct => change .write path (·.overwrite path (.text contents))
  | .atomic => do
      fillTemporary (← get).files path
      change .rename path (·.replace path (.text contents))

end Persist

/-- Make the file at an absolute path hold the text. -/
def persist (path : Path) (contents : String) (mode : WriteMode) :
    Action WriteError WrittenArtifact := do
  if !path.isAbsolute then
    throw { operation := .write, path, cause := .relativePath }
  let digest := Sha256.contentDigest contents
  let bytes := contents.utf8ByteSize
  let existing ← Persist.existing? (← get).files path
  if existing.map Sha256.contentDigest = some digest then
    Workspace.say .debug ("Unchanged, skipping write: " ++ path.text)
    return { path, digest, bytes, status := .unchanged }
  let parent := Persist.directoryOf path
  Persist.change .createDirectory parent (·.createDirectories parent)
  Persist.place mode path contents
  Workspace.say .debug ("Wrote " ++ toString bytes ++ " bytes to " ++ path.text)
  return { path, digest, bytes, status := .written }

end RuleCompiler
