import RuleCompiler.Text.Piece

/-!
Lines. A line ends at a line feed. `whole` lines keep their ending, so appending them gives the
text back; `bare` lines lose it, together with a carriage return right before it.
-/

namespace RuleCompiler.Text

def consLine (c : Char) : List (List Char) → List (List Char)
  | [] => [[c]]
  | line :: lines => (c :: line) :: lines

/-- The lines with their endings; only the last line may lack one. -/
def wholeLines : List Char → List (List Char)
  | [] => []
  | c :: rest =>
      if c = '\n' then ['\n'] :: wholeLines rest
      else consLine c (wholeLines rest)

/-- A line without its ending: one line feed and one carriage return before it. -/
def bareLine (line : List Char) : List Char :=
  match line.reverse with
  | '\n' :: '\r' :: before => before.reverse
  | '\n' :: before => before.reverse
  | _ => line

def bareLines (text : List Char) : List (List Char) :=
  (wholeLines text).map bareLine

theorem wholeLines_flatten (text : List Char) : (wholeLines text).flatten = text := by
  induction text with
  | nil => rfl
  | cons c rest ih =>
      by_cases feed : c = '\n'
      · simp [wholeLines, feed, ih]
      · simp only [wholeLines, if_neg feed]
        cases shape : wholeLines rest with
        | nil => simp [shape] at ih; simp [consLine, ih]
        | cons line lines => simp [shape] at ih; simp [consLine, ih]

end RuleCompiler.Text
