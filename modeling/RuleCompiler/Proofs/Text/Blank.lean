import Mathlib.Data.List.Induction
import RuleCompiler.Proofs.Text.Line

/-!
Laws of trimming. What is left of a text has a blank at neither end, and only blanks were taken
away; that settles what is left.
-/

namespace RuleCompiler.Text

def AreBlank (text : List Char) : Prop :=
  ∀ c ∈ text, isBlank c = true

def StartsClear (text : List Char) : Prop :=
  ∀ c, text.head? = some c → isBlank c = false

def EndsClear (text : List Char) : Prop :=
  ∀ c, text.getLast? = some c → isBlank c = false

instance (text : List Char) : Decidable (StartsClear text) :=
  @Option.decidableForallMem Char (fun c => isBlank c = false) (fun _ => inferInstance) text.head?

instance (text : List Char) : Decidable (EndsClear text) :=
  @Option.decidableForallMem Char (fun c => isBlank c = false) (fun _ => inferInstance)
    text.getLast?

/-! ### At the start -/

theorem trimStart_append {lead : List Char} (blank : AreBlank lead) (text : List Char) :
    trimStart (lead ++ text) = trimStart text :=
  List.dropWhile_append_of_pos blank

theorem trimStart_of_startsClear {text : List Char} (clear : StartsClear text) :
    trimStart text = text := by
  cases text with
  | nil => rfl
  | cons c rest =>
      apply List.dropWhile_cons_of_neg
      rw [clear c rfl]
      exact Bool.false_ne_true

theorem exists_lead_of_trimStart (text : List Char) :
    ∃ lead, text = lead ++ trimStart text ∧ AreBlank lead ∧ StartsClear (trimStart text) := by
  refine ⟨text.takeWhile isBlank, List.takeWhile_append_dropWhile.symm, ?_, ?_⟩
  · exact List.all_eq_true.mp List.all_takeWhile
  · intro c first
    have kept := List.head?_dropWhile_not isBlank text
    change (text.dropWhile isBlank).head? = some c at first
    rw [first] at kept
    exact kept

/-! ### At the end -/

theorem trimEnd_append (text : List Char) {tail : List Char} (blank : AreBlank tail) :
    trimEnd (text ++ tail) = trimEnd text := by
  induction tail using List.reverseRecOn with
  | nil => rw [List.append_nil]
  | append_singleton tail c ih =>
      have isBlank := blank c (List.mem_append_right tail (List.mem_singleton_self c))
      rw [← List.append_assoc, trimEnd, dropEndWhile_concat, if_pos isBlank]
      exact ih fun inner member => blank inner (List.mem_append_left [c] member)

theorem trimEnd_of_endsClear {text : List Char} (clear : EndsClear text) : trimEnd text = text := by
  rcases List.eq_nil_or_concat text with rfl | ⟨rest, c, rfl⟩
  · rfl
  · rw [List.concat_eq_append] at clear ⊢
    rw [trimEnd, dropEndWhile_concat, clear c List.getLast?_concat]
    rfl

theorem exists_tail_of_trimEnd (text : List Char) :
    ∃ tail, text = trimEnd text ++ tail ∧ AreBlank tail ∧ EndsClear (trimEnd text) := by
  induction text using List.reverseRecOn with
  | nil => exact ⟨[], rfl, nofun, nofun⟩
  | append_singleton text c ih =>
      rw [trimEnd, dropEndWhile_concat]
      cases blank : isBlank c with
      | true =>
          obtain ⟨tail, split, areBlank, clear⟩ := ih
          refine ⟨tail ++ [c], ?_, ?_, clear⟩
          · rw [if_pos rfl, ← List.append_assoc]
            exact congrArg (· ++ [c]) split
          · intro d member
            rcases List.mem_append.mp member with inTail | isLast
            · exact areBlank d inTail
            · rw [List.mem_singleton.mp isLast, blank]
      | false =>
          refine ⟨[], (List.append_nil _).symm, nofun, ?_⟩
          intro d last
          rw [if_neg Bool.false_ne_true, List.getLast?_concat] at last
          rw [← Option.some.inj last, blank]

theorem trimEnd_eq_iff {text core : List Char} :
    trimEnd text = core ↔ EndsClear core ∧ ∃ tail, AreBlank tail ∧ text = core ++ tail := by
  constructor
  · rintro rfl
    obtain ⟨tail, split, blank, clear⟩ := exists_tail_of_trimEnd text
    exact ⟨clear, tail, blank, split⟩
  · rintro ⟨clear, tail, blank, rfl⟩
    rw [trimEnd_append core blank, trimEnd_of_endsClear clear]

/-! ### At both ends -/

theorem trim_of_clear {lead core tail : List Char} (blankLead : AreBlank lead)
    (starts : StartsClear core) (ends : EndsClear core) (blankTail : AreBlank tail) :
    trim (lead ++ core ++ tail) = core := by
  rw [trim, List.append_assoc, trimStart_append blankLead]
  cases core with
  | nil =>
      -- All is blank, so trimming at the start leaves nothing already.
      have gone := trimStart_append blankTail []
      rw [List.append_nil] at gone
      rw [List.nil_append, gone]
      rfl
  | cons c rest =>
      have startsToo : StartsClear (c :: rest ++ tail) := starts
      rw [trimStart_of_startsClear startsToo, trimEnd_append _ blankTail, trimEnd_of_endsClear ends]

theorem exists_parts_of_trim (text : List Char) :
    ∃ lead tail, text = lead ++ trim text ++ tail ∧ AreBlank lead ∧ AreBlank tail := by
  obtain ⟨lead, splitLead, blankLead, _⟩ := exists_lead_of_trimStart text
  obtain ⟨tail, splitTail, blankTail, _⟩ := exists_tail_of_trimEnd (trimStart text)
  refine ⟨lead, tail, ?_, blankLead, blankTail⟩
  calc
    text = lead ++ trimStart text := splitLead
    _ = lead ++ (trim text ++ tail) := congrArg (lead ++ ·) splitTail
    _ = lead ++ trim text ++ tail := (List.append_assoc lead (trim text) tail).symm

end RuleCompiler.Text
