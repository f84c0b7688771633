import Mathlib.Data.List.Basic
import RuleCompiler.Text.Blank
import RuleCompiler.Text.Line

/-!
Laws of lines and of trimming at the end. A text whose last line has its ending can be followed by
any other text without a change to its lines; else the line that it breaks off in goes on.
-/

namespace RuleCompiler.Text

/-! ### Trimming -/

theorem dropEndWhile_concat (drop : Char → Bool) (text : List Char) (c : Char) :
    dropEndWhile drop (text ++ [c]) =
      if drop c then dropEndWhile drop text else text ++ [c] := by
  induction text with
  | nil => rfl
  | cons first rest ih =>
      rw [List.cons_append, dropEndWhile, dropEndWhile, ih]
      cases drop c with
      | true => rfl
      | false =>
          simp only [Bool.false_eq_true, if_false]
          cases whole : rest ++ [c] with
          | nil => exact absurd whole (List.append_ne_nil_of_right_ne_nil _ (List.cons_ne_nil _ _))
          | cons next others => rfl

theorem dropEndWhile_prefix (drop : Char → Bool) (text : List Char) :
    dropEndWhile drop text <+: text := by
  induction text with
  | nil => exact List.prefix_rfl
  | cons c rest ih =>
      unfold dropEndWhile
      split
      · split
        · exact List.nil_prefix
        · exact List.prefix_append [c] rest
      · exact (List.prefix_cons_inj c).mpr ih

theorem mem_dropEndWhile {drop : Char → Bool} {text : List Char} {c : Char} (member : c ∈ text)
    (kept : drop c = false) : c ∈ dropEndWhile drop text := by
  induction text with
  | nil => cases member
  | cons first rest ih =>
      unfold dropEndWhile
      rcases List.mem_cons.mp member with rfl | inRest
      · split
        · rw [kept]
          exact List.mem_singleton_self c
        · exact List.mem_cons_self
      · have inKept := ih inRest
        split
        · next empty =>
            rw [empty] at inKept
            cases inKept
        · exact List.mem_cons_of_mem _ inKept

/-! ### Lines -/

/-- Each line has its ending. -/
def IsWhole (text : List Char) : Prop :=
  text = [] ∨ text.getLast? = some '\n'

theorem isWhole_append_of_getLast? (first : List Char) {second : List Char}
    (ended : second.getLast? = some '\n') : IsWhole (first ++ second) :=
  Or.inr (by rw [List.getLast?_append, ended]; rfl)

theorem IsWhole.append {first second : List Char} (isFirst : IsWhole first)
    (isSecond : IsWhole second) : IsWhole (first ++ second) := by
  rcases isSecond with rfl | ended
  · rwa [List.append_nil]
  · exact isWhole_append_of_getLast? first ended

/-- A text is made of whole lines and of the line that it breaks off in. -/
theorem exists_openLine (text : List Char) :
    ∃ before last, text = before ++ last ∧ IsWhole before ∧ '\n' ∉ last := by
  induction text with
  | nil => exact ⟨[], [], rfl, Or.inl rfl, List.not_mem_nil⟩
  | cons c rest ih =>
      obtain ⟨before, last, rfl, whole, unbroken⟩ := ih
      rcases whole with rfl | ended
      · by_cases feed : c = '\n'
        · exact ⟨[c], last, rfl, Or.inr (congrArg some feed), unbroken⟩
        · refine ⟨[], c :: last, rfl, Or.inl rfl, ?_⟩
          exact List.not_mem_cons_of_ne_of_not_mem (Ne.symm feed) unbroken
      · refine ⟨c :: before, last, rfl, Or.inr ?_, unbroken⟩
        rw [List.getLast?_cons, ended]
        rfl

/-- An open line goes on in the first line of what follows. -/
theorem wholeLines_openLine {last : List Char} (unbroken : '\n' ∉ last) (nonempty : last ≠ [])
    (rest : List Char) :
    wholeLines (last ++ rest) =
      (last ++ (wholeLines rest).headD []) :: (wholeLines rest).tail := by
  induction last with
  | nil => exact absurd rfl nonempty
  | cons c last ih =>
      obtain ⟨noFeed, unbroken⟩ := List.ne_and_not_mem_of_not_mem_cons unbroken
      rw [List.cons_append, wholeLines, if_neg (Ne.symm noFeed)]
      cases last with
      | nil =>
          rw [List.nil_append]
          cases wholeLines rest with
          | nil => rfl
          | cons line lines => rfl
      | cons next last =>
          rw [ih unbroken (List.cons_ne_nil _ _)]
          rfl

theorem wholeLines_alone {last : List Char} (unbroken : '\n' ∉ last) (nonempty : last ≠ []) :
    wholeLines last = [last] := by
  have alone : wholeLines (last ++ []) = [last ++ []] := wholeLines_openLine unbroken nonempty []
  rwa [List.append_nil] at alone

theorem wholeLines_line {line : List Char} (unbroken : '\n' ∉ line) (rest : List Char) :
    wholeLines (line ++ '\n' :: rest) = (line ++ ['\n']) :: wholeLines rest := by
  have feed : wholeLines ('\n' :: rest) = ['\n'] :: wholeLines rest := if_pos rfl
  cases line with
  | nil => exact feed
  | cons c line =>
      rw [wholeLines_openLine unbroken (List.cons_ne_nil _ _), feed]
      rfl

theorem mem_consLine {c : Char} {lines : List (List Char)} {line : List Char}
    (member : line ∈ consLine c lines) : line.head? = some c ∨ line ∈ lines.tail := by
  cases lines with
  | nil => exact Or.inl (by rw [List.mem_singleton.mp member]; rfl)
  | cons first rest =>
      rcases List.mem_cons.mp member with rfl | inRest
      · exact Or.inl rfl
      · exact Or.inr inRest

theorem tail_consLine (c : Char) (lines : List (List Char)) :
    (consLine c lines).tail = lines.tail := by
  cases lines with
  | nil => rfl
  | cons first rest => rfl

theorem wholeLines_append {text : List Char} (whole : IsWhole text) (rest : List Char) :
    wholeLines (text ++ rest) = wholeLines text ++ wholeLines rest := by
  induction text with
  | nil => rfl
  | cons c text ih =>
      have ended := whole.resolve_left (List.cons_ne_nil c text)
      have inner : IsWhole text := by
        cases text with
        | nil => exact Or.inl rfl
        | cons next text => exact Or.inr ended
      rw [List.cons_append, wholeLines, wholeLines, ih inner]
      split
      · rfl
      · next noFeed =>
          cases lines : wholeLines text with
          | cons line lines => rfl
          | nil =>
              -- Only the empty text has no lines, and `c` alone would not end its line.
              have empty : text = [] := by
                rw [← wholeLines_flatten text, lines]
                rfl
              rw [empty] at ended
              exact absurd (Option.some.inj ended) noFeed

/-- The first line of a text has its ending, or is all of it. -/
theorem wholeLines_cons_cases {text line : List Char} {lines : List (List Char)}
    (cut : wholeLines text = line :: lines) :
    wholeLines lines.flatten = lines ∧
      ((∃ body, line = body ++ ['\n'] ∧ '\n' ∉ body) ∨ lines = []) := by
  induction text generalizing line lines with
  | nil => cases cut
  | cons c rest ih =>
      by_cases feed : c = '\n'
      · rw [wholeLines, if_pos feed] at cut
        obtain ⟨rfl, rfl⟩ := List.cons.inj cut
        refine ⟨?_, Or.inl ⟨[], rfl, List.not_mem_nil⟩⟩
        rw [wholeLines_flatten]
      · rw [wholeLines, if_neg feed] at cut
        cases below : wholeLines rest with
        | nil =>
            rw [below] at cut
            obtain ⟨rfl, rfl⟩ := List.cons.inj cut
            exact ⟨rfl, Or.inr rfl⟩
        | cons first others =>
            rw [below] at cut
            obtain ⟨rfl, rfl⟩ := List.cons.inj cut
            obtain ⟨same, shape⟩ := ih below
            refine ⟨same, shape.imp ?_ id⟩
            rintro ⟨body, rfl, unbroken⟩
            exact ⟨c :: body, rfl, List.not_mem_cons_of_ne_of_not_mem (Ne.symm feed) unbroken⟩

/-- Lines stay the same when the text is cut between two of them. -/
theorem wholeLines_cut {text : List Char} {before after : List (List Char)}
    (cut : wholeLines text = before ++ after) :
    wholeLines before.flatten = before ∧ wholeLines after.flatten = after := by
  induction before generalizing text with
  | nil =>
      rw [List.nil_append] at cut
      refine ⟨rfl, ?_⟩
      rw [← cut, wholeLines_flatten]
  | cons line before ih =>
      obtain ⟨below, shape⟩ := wholeLines_cons_cases cut
      obtain ⟨sameBefore, sameAfter⟩ := ih below
      refine ⟨?_, sameAfter⟩
      rcases shape with ⟨body, rfl, unbroken⟩ | last
      · rw [List.flatten_cons, List.append_assoc, List.singleton_append, wholeLines_line unbroken,
          sameBefore]
      · obtain ⟨rfl, rfl⟩ := List.append_eq_nil_iff.mp last
        rw [List.append_nil] at cut
        rw [← cut, wholeLines_flatten]

/-- A line of two texts is one of the second, or goes on from one of the first. -/
theorem mem_wholeLines_append {first second line : List Char}
    (member : line ∈ wholeLines (first ++ second)) :
    (∃ start ∈ wholeLines first, start <+: line) ∨ line ∈ wholeLines second := by
  obtain ⟨before, last, rfl, whole, unbroken⟩ := exists_openLine first
  rw [List.append_assoc, wholeLines_append whole] at member
  rw [wholeLines_append whole]
  rcases List.mem_append.mp member with inBefore | inRest
  · exact Or.inl ⟨line, List.mem_append_left _ inBefore, List.prefix_rfl⟩
  by_cases nonempty : last = []
  · rw [nonempty] at inRest
    exact Or.inr inRest
  rw [wholeLines_openLine unbroken nonempty] at inRest
  rcases List.mem_cons.mp inRest with rfl | inSecond
  · refine Or.inl ⟨last, List.mem_append_right _ ?_, List.prefix_append _ _⟩
    rw [wholeLines_alone unbroken nonempty]
    exact List.mem_singleton_self last
  · exact Or.inr (List.mem_of_mem_tail inSecond)

/-- Each line of the first of two texts goes on in a line of both. -/
theorem exists_mem_wholeLines_append {first start : List Char}
    (member : start ∈ wholeLines first) (second : List Char) :
    ∃ line ∈ wholeLines (first ++ second), start <+: line := by
  obtain ⟨before, last, rfl, whole, unbroken⟩ := exists_openLine first
  rw [wholeLines_append whole] at member
  rw [List.append_assoc, wholeLines_append whole]
  rcases List.mem_append.mp member with inBefore | inLast
  · exact ⟨start, List.mem_append_left _ inBefore, List.prefix_rfl⟩
  have nonempty : last ≠ [] := by
    rintro rfl
    cases inLast
  rw [wholeLines_alone unbroken nonempty, List.mem_singleton] at inLast
  rw [wholeLines_openLine unbroken nonempty, inLast]
  exact ⟨_, List.mem_append_right _ List.mem_cons_self, List.prefix_append _ _⟩

end RuleCompiler.Text
