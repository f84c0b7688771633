import RuleCompiler.Text.Blank
import RuleCompiler.Text.Numeral
import RuleCompiler.Text.Piece

/-!
Semantic versions: three numerals, then optionally `-` with pre-release identifiers and `+` with
build identifiers. `major?` also reads a version that lacks its last one or two numerals, by
completing it with zeros.
-/

namespace RuleCompiler

structure Version where
  major : Nat
  minor : Nat
  patch : Nat
  preRelease : List (List Char) := []
  build : List (List Char) := []
  deriving DecidableEq, Repr

namespace Version

/-- The characters of an identifier: ASCII letters, digits and the hyphen. -/
def isIdentifierChar (c : Char) : Bool :=
  c.isAlphanum || c == '-'

def hasSuperfluousZero : List Char → Bool
  | '0' :: _ :: _ => true
  | _ => false

/-- The value of a numeral: digits without a superfluous zero, below `2 ^ 64`. -/
def numeral? (digits : List Char) : Option Nat :=
  if digits.isEmpty || !digits.all Char.isDigit || hasSuperfluousZero digits then none
  else
    let value := Text.decimalValue digits
    if value < Nat.pow 2 64 then some value else none

/-- A build identifier is a non-empty run of identifier characters. -/
def isBuildIdentifier (text : List Char) : Bool :=
  !text.isEmpty && text.all isIdentifierChar

/-- A pre-release identifier made of digits alone has no superfluous zero either. -/
def isPreReleaseIdentifier (text : List Char) : Bool :=
  isBuildIdentifier text && !(text.all Char.isDigit && hasSuperfluousZero text)

/-- The identifiers between the dots, if each is well formed. -/
def identifiers? (wellFormed : List Char → Bool) (text : List Char) : Option (List (List Char)) :=
  let parts := Text.splitOn '.' text
  if parts.all wellFormed then some parts else none

/-- A full version. The build starts at the first `+`, the pre-release at the first `-` before it. -/
def parse? (text : List Char) : Option Version := do
  let (core, build) ← match Text.cutAt '+' text with
    | some (core, build) => do pure (core, ← identifiers? isBuildIdentifier build)
    | none => pure (text, [])
  let (core, preRelease) ← match Text.cutAt '-' core with
    | some (core, pre) => do pure (core, ← identifiers? isPreReleaseIdentifier pre)
    | none => pure (core, [])
  match Text.splitOn '.' core with
  | [major, minor, patch] =>
      return { major := ← numeral? major, minor := ← numeral? minor, patch := ← numeral? patch,
               preRelease, build }
  | _ => none

/-- Fill up a version that has fewer than two dots. -/
def completed? (text : List Char) : Option (List Char) :=
  match text.count '.' with
  | 0 => some (text ++ ['.', '0', '.', '0'])
  | 1 => some (text ++ ['.', '0'])
  | _ => none

/-- One leading `v` is not part of the version. -/
def dropLeadingV : List Char → List Char
  | 'v' :: rest => rest
  | text => text

/-- The major number of a possibly partial version with blanks around it. -/
def major? (text : String) : Option Nat :=
  let trimmed := dropLeadingV (Text.trim text.toList)
  match parse? trimmed with
  | some version => some version.major
  | none => do
      let completed ← completed? trimmed
      return (← parse? completed).major

end Version

end RuleCompiler
