import RuleCompiler.Path.Basic
import RuleCompiler.Text.Blank

/-!
Where an artifact goes: the base path of its destination, a configured override, and a file name to
fall back on when these name a directory. A path without an extension, or with a slash at its end,
counts as a directory; a provider may also ask whether one exists there.
-/

namespace RuleCompiler

namespace RuleName

/-- The endings of rule files, the longest first. -/
def suffixes : List String :=
  [".ruleset.md", ".rules.md", ".rule.md", ".markdown", ".mdc", ".md"]

def lowered (text : List Char) : List Char :=
  text.map Char.toLower

/-- `name` ends in `suffix`, in any case, and has something before it. -/
def hasSuffix (name : List Char) (suffix : String) : Bool :=
  Text.endsWith suffix.toList (lowered name) && suffix.length < name.length

/-- The name without the first ending that it has. -/
def stripSuffix (name : List Char) : List Char :=
  match suffixes.find? (hasSuffix name) with
  | some suffix => name.take (name.length - suffix.length)
  | none => name

/-- The stem of a document's file name, or else of its id. -/
def stem (path : Option Path) (id : String) : String :=
  let base := (path.bind Path.fileName?).getD id
  match stripSuffix base.toList with
  | [] => "rules"
  | stem => String.ofList stem

/-- The stem with an extension, whose leading dots do not count. -/
def withExtension (path : Option Path) (id extension : String) : String :=
  stem path id ++ "." ++ String.ofList (extension.toList.dropWhile (· == '.'))

end RuleName

inductive DirectoryCheck where
  /-- By its text. -/
  | lexical
  /-- By its text, or because a directory exists there. -/
  | stat
  deriving DecidableEq, Repr

namespace OutputPath

/-- A slash at the end, or no extension. -/
def looksLikeDirectory (text : String) : Bool :=
  text.toList.getLast? == some '/' || (Path.mk text).extension?.isNone

def baseDirectory (base : Path) : Path :=
  if looksLikeDirectory base.text then base else base.parent?.getD ⟨""⟩

/-- The configured path, unless it is blank. -/
def override? (configured : Option String) : Option String :=
  configured.bind fun text =>
    let trimmed := Text.trimmed text
    if trimmed = "" then none else some trimmed

/-- The path before the fallback, with the text by which it is judged. -/
def candidate (base : Path) (configured : Option String) : Path × String :=
  match override? configured with
  | some text => ((baseDirectory base).join text, text)
  | none => (base, base.text)

/-- The absolute path of an artifact. `directoryExists` answers the check `stat`. -/
def resolve (workingDirectory : Path) (directoryExists : Path → Bool) (base : Path)
    (configured : Option String) (fallback : String) (check : DirectoryCheck) : Path :=
  let (path, text) := candidate base configured
  let isDirectory :=
    looksLikeDirectory text || (check = .stat && directoryExists path)
  (if isDirectory then path.join fallback else path).absolutize workingDirectory

end OutputPath

end RuleCompiler
