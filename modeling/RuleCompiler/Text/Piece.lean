/-!
Cutting text at a separator and putting the pieces back together. `splitOn` keeps every piece,
empty ones too, so joining the pieces with the separator gives the text back.
-/

namespace RuleCompiler.Text

def consPiece (c : Char) : List (List Char) → List (List Char)
  | [] => [[c]]
  | piece :: pieces => (c :: piece) :: pieces

/-- The pieces between the occurrences of `separator`; a text without one is its own piece. -/
def splitOn (separator : Char) : List Char → List (List Char)
  | [] => [[]]
  | c :: rest =>
      if c = separator then [] :: splitOn separator rest
      else consPiece c (splitOn separator rest)

def pieces (separator : Char) (text : String) : List String :=
  (splitOn separator text.toList).map String.ofList

theorem splitOn_ne_nil (separator : Char) (text : List Char) : splitOn separator text ≠ [] := by
  cases text with
  | nil => simp [splitOn]
  | cons c rest =>
      by_cases same : c = separator
      · simp [splitOn, same]
      · simp only [splitOn, if_neg same]
        cases splitOn separator rest <;> simp [consPiece]

theorem intercalate_consPiece (separator c : Char) (pieces : List (List Char)) :
    [separator].intercalate (consPiece c pieces) = c :: [separator].intercalate pieces := by
  cases pieces with
  | nil => simp [consPiece]
  | cons piece pieces => cases pieces <;> simp [consPiece, List.intercalate, List.intersperse]

/-- The pieces with the separator between each two are the text again. -/
theorem intercalate_splitOn (separator : Char) (text : List Char) :
    [separator].intercalate (splitOn separator text) = text := by
  induction text with
  | nil => simp [splitOn]
  | cons c rest ih =>
      by_cases same : c = separator
      · obtain ⟨piece, pieces, shape⟩ := List.exists_cons_of_ne_nil (splitOn_ne_nil separator rest)
        rw [splitOn, if_pos same, shape, List.intercalate_cons_cons, ← shape, ih, same]
        rfl
      · simp [splitOn, same, intercalate_consPiece, ih]

/-- Each occurrence of a character replaced by a text. -/
def replaced (old : Char) (new text : String) : String :=
  String.ofList (text.toList.flatMap fun c => if c = old then new.toList else [c])

/-- Cut the text in two at the first occurrence of `separator`, which is in neither part. -/
def cutAt (separator : Char) : List Char → Option (List Char × List Char)
  | [] => none
  | c :: rest =>
      if c = separator then some ([], rest)
      else (cutAt separator rest).map fun (before, after) => (c :: before, after)

/-- What follows `lead`, for a text that starts with it. -/
def afterLead : (lead text : List Char) → Option (List Char)
  | [], text => some text
  | _ :: _, [] => none
  | l :: lead, c :: text => if l = c then afterLead lead text else none

def startsWith (lead text : List Char) : Bool :=
  (afterLead lead text).isSome

def endsWith (tail text : List Char) : Bool :=
  startsWith tail.reverse text.reverse

def occurs (needle : List Char) : List Char → Bool
  | [] => needle.isEmpty
  | c :: text => startsWith needle (c :: text) || occurs needle text

end RuleCompiler.Text
