import RuleCompiler.FileTree.Locate

/-!
The wording of causes that lie outside the compiler: failed file operations, and texts that are no
JSON, no YAML or no template. Messages take it as a parameter and add their own words around it.
-/

namespace RuleCompiler

/-- What the operating system says about a failure, with its number where it has one. -/
def IoError.description : IoError → String
  | .notFound => "No such file or directory (os error 2)"
  | .notADirectory => "Not a directory (os error 20)"
  | .alreadyExists => "File exists (os error 17)"
  | .isADirectory => "Is a directory (os error 21)"
  | .invalidFilename => "File name too long (os error 36)"
  | .invalidData => "stream did not contain valid UTF-8"
  | .invalidInput => "file name contained an unexpected NUL byte"
  | .filesystemLoop => "Too many levels of symbolic links (os error 40)"

def Refusal.description : Refusal → String
  | .permissionDenied => "Permission denied (os error 13)"
  | .readOnlyFilesystem => "Read-only file system (os error 30)"
  | .storageFull => "No space left on device (os error 28)"
  | .quotaExceeded => "Disk quota exceeded (os error 122)"
  | .fileTooLarge => "File too large (os error 27)"

structure Wording where
  io : IoError → String
  json : String
  yaml : String
  /-- What is said about a text that is no template, or cannot be rendered. -/
  template : String → String
  refusal : Refusal → String := Refusal.description
  /-- What is said where the temporary file with a path fails, and for which reason. -/
  temporary : Path → String → String := fun path reason =>
    reason ++ " at path \"" ++ path.text ++ "\""

def Wording.plain : Wording where
  io := IoError.description
  json := "not valid JSON"
  yaml := "not valid YAML"
  template := id

end RuleCompiler
