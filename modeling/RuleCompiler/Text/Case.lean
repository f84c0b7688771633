import RuleCompiler.Text.CaseTable

/-!
Capital and small letters. A capital may be written with several characters, and a sigma is lowered
to its final form at the end of a word.
-/

namespace RuleCompiler.Text

def shifted? (runs : List CaseRun) (code : Nat) : Option Char :=
  match runs with
  | [] => none
  | (first, last, step, shift) :: rest =>
      if code < first then none
      else if code ≤ last && (code - first) % step = 0 then
        some (Char.ofNat (Int.ofNat code + shift).toNat)
      else shifted? rest code

def inRanges (ranges : List (Nat × Nat)) (code : Nat) : Bool :=
  match ranges with
  | [] => false
  | (first, last) :: rest =>
      if code < first then false else if code ≤ last then true else inRanges rest code

def capital (c : Char) : List Char :=
  match longCapitals.lookup c.toNat with
  | some codes => codes.map Char.ofNat
  | none => [(shifted? capitalRuns c.toNat).getD c]

/-- The small form of a character, or the character. The dot of a capital I stays. -/
def small (c : Char) : List Char :=
  if c = 'İ' then ['i', '\u0307'] else [(shifted? smallRuns c.toNat).getD c]

def isCased (c : Char) : Bool :=
  inRanges casedRanges c.toNat

def isCaseIgnorable (c : Char) : Bool :=
  inRanges caseIgnorableRanges c.toNat

/-- The next character that is not passed over is a letter that has a case. -/
def meetsCased (text : List Char) : Bool :=
  match text.dropWhile isCaseIgnorable with
  | [] => false
  | c :: _ => isCased c

/-- Lower a text. `before` is what precedes it, the nearest character first. -/
def lowerFrom (before : List Char) : List Char → List Char
  | [] => []
  | c :: rest =>
      let lowered :=
        if c = 'Σ' then [if meetsCased before && !meetsCased rest then 'ς' else 'σ'] else small c
      lowered ++ lowerFrom (c :: before) rest

def upper (text : List Char) : List Char :=
  text.flatMap capital

def lower (text : List Char) : List Char :=
  lowerFrom [] text

def capitalized : List Char → List Char
  | [] => []
  | c :: rest => capital c ++ rest

end RuleCompiler.Text
