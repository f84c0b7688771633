import RuleCompiler.Template.Basic
import RuleCompiler.Text.Piece

/-!
Grammar rules: functions that read a text from its start. A rule takes a part of the text, or does
not match, and then another rule may; or the text is broken, and no other rule is tried.
-/

namespace RuleCompiler.Template

inductive Match (α : Type) where
  | taken (value : α) (rest : List Char)
  | refused
  | broken (error : SyntaxError)

abbrev Rule (α : Type) := List Char → Match α

namespace Rule

variable {α β : Type}

def done (value : α) : Rule α := fun text => .taken value text

def fails : Rule α := fun _ => .refused

def followedBy (rule : Rule α) (next : α → Rule β) : Rule β := fun text =>
  match rule text with
  | .taken value rest => next value rest
  | .refused => .refused
  | .broken error => .broken error

instance : Monad Rule where
  pure := done
  bind := followedBy

/-- The first rule, or the second where the first does not match. -/
def otherwise (first second : Rule α) : Rule α := fun text =>
  match first text with
  | .refused => second text
  | result => result

def firstOf : List (Rule α) → Rule α
  | [] => fails
  | rule :: rules => otherwise rule (firstOf rules)

def optional (rule : Rule α) : Rule (Option α) :=
  otherwise (do return some (← rule)) (done none)

/-- Take nothing, and match where the rule does not. -/
def absent (rule : Rule α) : Rule Unit := fun text =>
  match rule text with
  | .taken .. => .refused
  | .refused => .taken () text
  | .broken error => .broken error

def many (fuel : Nat) (rule : Rule α) : Rule (List α) :=
  match fuel with
  | 0 => done []
  | fuel + 1 =>
      otherwise
        (do
          let first ← rule
          let others ← many fuel rule
          return first :: others)
        (done [])

def literally (expected : String) : Rule Unit := fun text =>
  match Text.afterLead expected.toList text with
  | some rest => .taken () rest
  | none => .refused

def run (allowed : Char → Bool) : Rule (List Char) := fun text =>
  .taken (text.takeWhile allowed) (text.dropWhile allowed)

def run1 (allowed : Char → Bool) : Rule (List Char) := do
  match ← run allowed with
  | [] => fails
  | found => return found

def isSpace (c : Char) : Bool :=
  c == ' ' || c == '\t' || c == '\n' || c == '\r'

def space : Rule Unit := do
  let _ ← run isSpace

/-- The text that a rule takes, with its result. -/
def withText (rule : Rule α) : Rule (List Char × α) := fun text =>
  match rule text with
  | .taken value rest => .taken (text.take (text.length - rest.length), value) rest
  | .refused => .refused
  | .broken error => .broken error

/-- Everything before the first occurrence of a mark, and the mark. -/
def through (mark : String) : List Char → Match (List Char)
  | [] => if mark = "" then .taken [] [] else .refused
  | c :: rest =>
      match Text.afterLead mark.toList (c :: rest) with
      | some after => .taken [] after
      | none =>
          match through mark rest with
          | .taken before after => .taken (c :: before) after
          | other => other

end Rule

end RuleCompiler.Template
