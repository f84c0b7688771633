import Mathlib.Data.List.Induction
import Mathlib.Data.List.Nodup

/-!
Lists without their later repetitions. Only the end of a list decides what one more item adds, so
these lists are built up from the front, as items come.
-/

namespace RuleCompiler

variable {α : Type} [BEq α] [LawfulBEq α]

theorem eraseDups_concat_of_mem {items : List α} {item : α} (member : item ∈ items) :
    (items ++ [item]).eraseDups = items.eraseDups := by
  have known : items.contains item = true := List.contains_iff_mem.mpr member
  rw [List.eraseDups_append, List.cons_removeAll, known, if_neg (by decide)]
  exact List.append_nil _

theorem eraseDups_concat_of_not_mem {items : List α} {item : α} (fresh : item ∉ items) :
    (items ++ [item]).eraseDups = items.eraseDups ++ [item] := by
  have unknown : items.contains item = false :=
    Bool.eq_false_iff.mpr fun known => fresh (List.contains_iff_mem.mp known)
  rw [List.eraseDups_append, List.cons_removeAll, unknown, if_pos rfl]
  rfl

theorem nodup_eraseDups (items : List α) : items.eraseDups.Nodup := by
  induction items using List.reverseRecOn with
  | nil => exact List.nodup_nil
  | append_singleton items item ih =>
      by_cases member : item ∈ items
      · rw [eraseDups_concat_of_mem member]
        exact ih
      · rw [eraseDups_concat_of_not_mem member]
        apply List.nodup_append.mpr
        refine ⟨ih, List.nodup_singleton item, ?_⟩
        intro earlier inside last isLast same
        rw [same, List.mem_singleton.mp isLast, List.mem_eraseDups] at inside
        exact member inside

end RuleCompiler
