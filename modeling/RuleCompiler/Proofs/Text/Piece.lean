import Mathlib.Data.List.Basic
import RuleCompiler.Text.Piece

/-!
Pieces hold no separator, and pieces without a separator are found again once they are joined. So
cutting and joining are inverse to each other, except that joining no pieces leaves the piece that
every text has.
-/

namespace RuleCompiler.Text

variable {separator : Char}

theorem mem_consPiece {c : Char} {pieces : List (List Char)} {piece : List Char}
    (member : piece ∈ consPiece c pieces) :
    piece = [c] ∨ (∃ first ∈ pieces, piece = c :: first) ∨ piece ∈ pieces := by
  cases pieces with
  | nil => exact Or.inl (List.mem_singleton.mp member)
  | cons first rest =>
      rcases List.mem_cons.mp member with atHead | inRest
      · exact Or.inr (Or.inl ⟨first, List.mem_cons_self, atHead⟩)
      · exact Or.inr (Or.inr (List.mem_cons_of_mem first inRest))

theorem separator_not_mem_splitOn {text piece : List Char} (member : piece ∈ splitOn separator text) :
    separator ∉ piece := by
  induction text generalizing piece with
  | nil =>
      rw [splitOn, List.mem_singleton] at member
      rw [member]
      exact List.not_mem_nil
  | cons c rest ih =>
      by_cases same : c = separator
      · rw [splitOn, if_pos same] at member
        rcases List.mem_cons.mp member with atHead | inRest
        · rw [atHead]
          exact List.not_mem_nil
        · exact ih inRest
      · rw [splitOn, if_neg same] at member
        have different : separator ≠ c := fun equal => same equal.symm
        rcases mem_consPiece member with alone | ⟨first, inside, extended⟩ | inRest
        · rw [alone, List.mem_singleton]
          exact different
        · rw [extended, List.mem_cons]
          exact fun found => found.elim different (ih inside)
        · exact ih inRest

theorem splitOn_of_not_mem {text : List Char} (absent : separator ∉ text) :
    splitOn separator text = [text] := by
  induction text with
  | nil => rfl
  | cons c rest ih =>
      have different : c ≠ separator := by
        intro same
        rw [same] at absent
        exact absent List.mem_cons_self
      have absentBelow : separator ∉ rest := fun inside => absent (List.mem_cons_of_mem c inside)
      rw [splitOn, if_neg different, ih absentBelow, consPiece]

/-- A separator cuts a text in two, whatever its parts hold. -/
theorem splitOn_append_separator (text rest : List Char) :
    splitOn separator (text ++ separator :: rest) =
      splitOn separator text ++ splitOn separator rest := by
  induction text with
  | nil => simp [splitOn]
  | cons c text ih =>
      by_cases same : c = separator
      · rw [List.cons_append, splitOn, if_pos same, ih, splitOn, if_pos same, List.cons_append]
      · obtain ⟨piece, pieces, shape⟩ :=
          List.exists_cons_of_ne_nil (splitOn_ne_nil separator text)
        rw [List.cons_append, splitOn, if_neg same, ih, splitOn, if_neg same, shape]
        rfl

/-- Joined pieces fall apart into the pieces of each of them. -/
theorem splitOn_intercalate_flatMap {pieces : List (List Char)} (some : pieces ≠ []) :
    splitOn separator ([separator].intercalate pieces) = pieces.flatMap (splitOn separator) := by
  induction pieces with
  | nil => exact absurd rfl some
  | cons piece rest ih =>
      cases rest with
      | nil => rw [List.intercalate_singleton, List.flatMap_singleton]
      | cons next others =>
          rw [List.intercalate_cons_cons, List.append_assoc, List.singleton_append,
            splitOn_append_separator, List.flatMap_cons, ih (List.cons_ne_nil next others)]

theorem splitOn_intercalate {pieces : List (List Char)} (some : pieces ≠ [])
    (clean : ∀ piece ∈ pieces, separator ∉ piece) :
    splitOn separator ([separator].intercalate pieces) = pieces := by
  rw [splitOn_intercalate_flatMap some, List.flatMap_congr fun piece member =>
    splitOn_of_not_mem (clean piece member)]
  exact List.flatMap_singleton' pieces

theorem length_splitOn (text : List Char) :
    (splitOn separator text).length = text.count separator + 1 := by
  induction text with
  | nil => rfl
  | cons c rest ih =>
      by_cases same : c = separator
      · rw [splitOn, if_pos same, List.length_cons, ih, same, List.count_cons_self]
      · obtain ⟨piece, pieces, shape⟩ :=
          List.exists_cons_of_ne_nil (splitOn_ne_nil separator rest)
        rw [splitOn, if_neg same, List.count_cons_of_ne same, ← ih, shape]
        rfl

theorem mem_intercalate {c : Char} {pieces : List (List Char)}
    (member : c ∈ [separator].intercalate pieces) : c = separator ∨ ∃ piece ∈ pieces, c ∈ piece := by
  induction pieces with
  | nil => cases member
  | cons piece rest ih =>
      cases rest with
      | nil =>
          rw [List.intercalate_singleton] at member
          exact Or.inr ⟨piece, List.mem_cons_self, member⟩
      | cons next others =>
          rw [List.intercalate_cons_cons, List.mem_append, List.mem_append,
            List.mem_singleton] at member
          rcases member with (inPiece | isSeparator) | below
          · exact Or.inr ⟨piece, List.mem_cons_self, inPiece⟩
          · exact Or.inl isSeparator
          · refine (ih below).imp id ?_
            rintro ⟨inner, inside, inInner⟩
            exact ⟨inner, List.mem_cons_of_mem piece inside, inInner⟩

/-! ### The first separator -/

theorem cutAt_eq_none_iff {text : List Char} : cutAt separator text = none ↔ separator ∉ text := by
  induction text with
  | nil => exact iff_of_true rfl List.not_mem_nil
  | cons c rest ih =>
      by_cases same : c = separator
      · rw [cutAt, if_pos same, same]
        exact iff_of_false nofun (fun absent => absent List.mem_cons_self)
      · rw [cutAt, if_neg same, Option.map_eq_none_iff, ih, List.mem_cons, not_or]
        exact ⟨fun absent => ⟨fun equal => same equal.symm, absent⟩, And.right⟩

theorem eq_append_of_cutAt {text before after : List Char}
    (cut : cutAt separator text = some (before, after)) :
    text = before ++ separator :: after ∧ separator ∉ before := by
  induction text generalizing before with
  | nil => cases cut
  | cons c rest ih =>
      by_cases same : c = separator
      · rw [cutAt, if_pos same] at cut
        cases cut
        exact ⟨congrArg (· :: after) same, List.not_mem_nil⟩
      · rw [cutAt, if_neg same] at cut
        obtain ⟨⟨restBefore, restAfter⟩, cutRest, isCut⟩ := Option.map_eq_some_iff.mp cut
        cases isCut
        obtain ⟨split, absent⟩ := ih cutRest
        refine ⟨congrArg (c :: ·) split, ?_⟩
        rw [List.mem_cons, not_or]
        exact ⟨fun equal => same equal.symm, absent⟩

theorem cutAt_append_separator {before : List Char} (absent : separator ∉ before)
    (after : List Char) :
    cutAt separator (before ++ separator :: after) = some (before, after) := by
  induction before with
  | nil => exact if_pos rfl
  | cons c rest ih =>
      obtain ⟨different, absentBelow⟩ := List.ne_and_not_mem_of_not_mem_cons absent
      rw [List.cons_append, cutAt, if_neg (Ne.symm different), ih absentBelow]
      rfl

end RuleCompiler.Text
