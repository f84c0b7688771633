/-!
Blank characters and trimming. A character is blank exactly when it has the Unicode property
`White_Space`; this is wider than the ASCII blanks, so a title or an option padded with a
no-break or an ideographic space is trimmed too.
-/

namespace RuleCompiler.Text

/-- The Unicode property `White_Space`. -/
def isBlank (c : Char) : Bool :=
  let code := c.toNat
  (0x9 ≤ code && code ≤ 0xD) || code == 0x20 || code == 0x85 || code == 0xA0 ||
    code == 0x1680 || (0x2000 ≤ code && code ≤ 0x200A) || code == 0x2028 || code == 0x2029 ||
    code == 0x202F || code == 0x205F || code == 0x3000

def trimStart (text : List Char) : List Char :=
  text.dropWhile isBlank

def dropEndWhile (drop : Char → Bool) : List Char → List Char
  | [] => []
  | c :: rest =>
      match dropEndWhile drop rest with
      | [] => if drop c then [] else [c]
      | kept => c :: kept

def trimEnd (text : List Char) : List Char :=
  dropEndWhile isBlank text

def trim (text : List Char) : List Char :=
  trimEnd (trimStart text)

def trimmed (text : String) : String :=
  String.ofList (trim text.toList)

def trimmedEnd (text : String) : String :=
  String.ofList (trimEnd text.toList)

def isBlankText (text : List Char) : Bool :=
  text.all isBlank

end RuleCompiler.Text
