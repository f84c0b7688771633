import Mathlib.Tactic.Push
import RuleCompiler.Proofs.Selection

/-!
Selections from fewer registered providers. Every way to choose tells of each destination apart from
the others, save that keys of `destinations` count only where some key is registered. So removing
providers removes only them, as long as it does not take away all the keys that counted.
-/

namespace RuleCompiler

section Kept

variable {α : Type} [DecidableEq α] {all kept : List α}

theorem filter_mem_eq_of_sublist (distinct : all.Nodup) (fewer : kept.Sublist all) :
    (all.filter fun item => item ∈ kept) = kept := by
  induction fewer with
  | slnil => rfl
  | cons item fewer ih =>
      obtain ⟨fresh, distinct⟩ := List.nodup_cons.mp distinct
      rw [List.filter_cons_of_neg, ih distinct]
      rw [decide_eq_true_iff]
      exact fun member => fresh (fewer.subset member)
  | @cons_cons kept all item fewer ih =>
      obtain ⟨fresh, distinct⟩ := List.nodup_cons.mp distinct
      have sameBelow : ∀ other ∈ all, decide (other ∈ item :: kept) = decide (other ∈ kept) := by
        intro other member
        have different : other ≠ item := fun same => fresh (same ▸ member)
        rw [decide_eq_decide, List.mem_cons, or_iff_right different]
      rw [List.filter_cons, if_pos (decide_eq_true List.mem_cons_self),
        List.filter_congr sameBelow, ih distinct]

/-- Keeping some items and testing the items one by one can be done in either order. -/
theorem filter_of_sublist (distinct : all.Nodup) (fewer : kept.Sublist all) (test : α → Bool) :
    kept.filter test = (all.filter test).filter fun item => item ∈ kept := by
  rw [List.filter_filter, List.filter_congr fun item _ => Bool.and_comm _ (test item),
    ← List.filter_filter, filter_mem_eq_of_sublist distinct fewer]

end Kept

namespace Selection

/-- The keys of an object `destinations` without a list: none is registered, or one is kept. -/
def KeysStay (frontmatter : Value) (registered kept : List String) : Prop :=
  ∀ fields, frontmatter.get? "destinations" = some (.object fields) →
    (∀ items, KeyedList.get? fields "include" ≠ some (.array items)) →
    (∀ id ∈ registered, id ∉ KeyedList.keys fields) ∨ ∃ id ∈ kept, id ∈ KeyedList.keys fields

section Fewer

variable {frontmatter : Value} {config : ProjectConfig} {registered kept : List String}

theorem not_listed_of_fields {fields : Fields}
    (object : frontmatter.get? "destinations" = some (.object fields))
    (unlisted : ∀ items, KeyedList.get? fields "include" ≠ some (.array items))
    (items : List Value) :
    ¬ Lists frontmatter items := by
  intro lists
  cases lists with
  | array isArray =>
      rw [object] at isArray
      cases isArray
  | included other isObject isArray =>
      rw [object] at isObject
      cases isObject
      exact unlisted items isArray

theorem Keyed.of_sublist {fields : Fields} (fewer : kept.Sublist registered)
    (keyed : Keyed frontmatter kept fields) : Keyed frontmatter registered fields := by
  obtain ⟨id, member, isKey⟩ := keyed.registered
  exact ⟨keyed.object, id, fewer.subset member, isKey⟩

theorem KeysStay.unkeyed (stay : KeysStay frontmatter registered kept)
    (unlisted : ∀ items, ¬ Lists frontmatter items)
    (unkeyed : ∀ fields, ¬ Keyed frontmatter kept fields) (fields : Fields) :
    ¬ Keyed frontmatter registered fields := by
  intro keyed
  have noInclude : ∀ items, KeyedList.get? fields "include" ≠ some (.array items) :=
    fun items isArray => unlisted items (Lists.included fields keyed.object isArray)
  rcases stay fields keyed.object noInclude with none | keptKey
  · obtain ⟨id, member, isKey⟩ := keyed.registered
    exact none id member isKey
  · exact unkeyed fields ⟨keyed.object, keptKey⟩

theorem select_of_keysStay (distinct : registered.Nodup) (fewer : kept.Sublist registered)
    (stay : KeysStay frontmatter registered kept) :
    select frontmatter config kept =
      (select frontmatter config registered).filter fun id => id ∈ kept := by
  by_cases excluded : isExcluded frontmatter = true
  · unfold select
    rw [if_pos excluded, if_pos excluded]
    rfl
  rw [select_of_listed? excluded, select_of_listed? excluded]
  by_cases lists : ∃ items, Lists frontmatter items
  · obtain ⟨items, lists⟩ := lists
    rw [listed?_of_lists lists, listed?_of_lists lists]
    exact filter_of_sublist distinct fewer _
  have unlisted := not_exists.mp lists
  by_cases keyed : ∃ fields, Keyed frontmatter kept fields
  · obtain ⟨fields, keyed⟩ := keyed
    rw [listed?_of_keyed unlisted keyed, listed?_of_keyed unlisted (keyed.of_sublist fewer)]
    exact filter_of_sublist distinct fewer _
  · have unkeyed := not_exists.mp keyed
    rw [listed?_of_neither unlisted unkeyed,
      listed?_of_neither unlisted (stay.unkeyed unlisted unkeyed)]
    exact filter_of_sublist distinct fewer _

/-- Once the keys that counted are gone, the settings decide, and before they did not. -/
theorem select_of_not_keysStay (config : ProjectConfig)
    (included : ¬ isExcluded frontmatter = true)
    (lost : ¬ KeysStay frontmatter registered kept) :
    select frontmatter config kept = kept.filter (isEnabled frontmatter config) ∧
      ((select frontmatter config registered).filter fun id => id ∈ kept) = [] := by
  unfold KeysStay at lost
  push Not at lost
  obtain ⟨fields, object, noInclude, someKey, noneKept⟩ := lost
  have unlisted := not_listed_of_fields object noInclude
  have keyed : Keyed frontmatter registered fields := ⟨object, someKey⟩
  have unkeyed : ∀ other, ¬ Keyed frontmatter kept other := by
    intro other keyedKept
    obtain ⟨id, member, isKey⟩ := keyedKept.registered
    have isObject := keyedKept.object
    rw [object] at isObject
    cases isObject
    exact noneKept id member isKey
  constructor
  · rw [select_of_listed? included, listed?_of_neither unlisted unkeyed]
    rfl
  · rw [select_of_listed? included, listed?_of_keyed unlisted keyed, Option.getD_some,
      List.filter_filter, List.filter_eq_nil_iff]
    intro id _ both
    obtain ⟨isKept, contains⟩ := Bool.and_eq_true_iff.mp both
    exact noneKept id (of_decide_eq_true isKept) (KeyedList.contains_iff_mem_keys.mp contains)

end Fewer

/-- Removing providers removes only them from a selection, as long as the keys that counted do not
all go. If they do, the rest is chosen by its settings, so nothing changes for it exactly if each
of the kept providers is disabled. -/
theorem select_of_fewer (frontmatter : Value) (config : ProjectConfig)
    {registered kept : List String} (distinct : registered.Nodup)
    (fewer : kept.Sublist registered) :
    (KeysStay frontmatter registered kept →
      select frontmatter config kept =
        (select frontmatter config registered).filter fun id => id ∈ kept) ∧
    (¬ KeysStay frontmatter registered kept →
      frontmatter.at? ["rule", "disabled"] ≠ some (.bool true) →
      (select frontmatter config kept =
          (select frontmatter config registered).filter (fun id => id ∈ kept) ↔
        ∀ id ∈ kept, ¬ NotDisabled frontmatter config id)) := by
  refine ⟨select_of_keysStay distinct fewer, ?_⟩
  intro lost isRule
  have included : ¬ isExcluded frontmatter = true :=
    fun excluded => isRule (isExcluded_iff.mp excluded)
  obtain ⟨bySettings, nothing⟩ := select_of_not_keysStay config included lost
  rw [bySettings, nothing, List.filter_eq_nil_iff]
  simp only [isEnabled_iff_notDisabled]

/-- Two destinations are named by their keys, whatever is under them. -/
def keyedFrontmatter : Value :=
  .object [("destinations", .object [("cline", .null), ("cursor", .bool false)])]

/-- Cursor is one of the keys that count. Without any of them, Codex is chosen by its settings. -/
theorem select_of_fewer_keyed :
    ["cursor", "cline", "codex"].Nodup ∧
      (["cursor", "codex"].Sublist ["cursor", "cline", "codex"] ∧
        KeysStay keyedFrontmatter ["cursor", "cline", "codex"] ["cursor", "codex"] ∧
        select keyedFrontmatter {} ["cursor", "codex"] = ["cursor"]) ∧
      ["codex"].Sublist ["cursor", "cline", "codex"] ∧
        ¬ KeysStay keyedFrontmatter ["cursor", "cline", "codex"] ["codex"] ∧
        select keyedFrontmatter {} ["codex"] ≠
          (select keyedFrontmatter {} ["cursor", "cline", "codex"]).filter
            fun id => id ∈ ["codex"] := by
  have distinct : ["cursor", "cline", "codex"].Nodup := by decide
  have fewer : ["cursor", "codex"].Sublist ["cursor", "cline", "codex"] := by decide
  have stay : KeysStay keyedFrontmatter ["cursor", "cline", "codex"] ["cursor", "codex"] := by
    intro fields object _
    cases object
    exact Or.inr ⟨"cursor", by decide, by decide⟩
  have chosen : select keyedFrontmatter {} ["cursor", "codex"] = ["cursor"] := by
    rw [(select_of_fewer keyedFrontmatter {} distinct fewer).1 stay]
    decide
  have fewest : ["codex"].Sublist ["cursor", "cline", "codex"] := by decide
  have lost : ¬ KeysStay keyedFrontmatter ["cursor", "cline", "codex"] ["codex"] := by
    intro stay
    rcases stay _ rfl (fun _ => nofun) with none | ⟨id, member, isKey⟩
    · exact none "cursor" (by decide) (by decide)
    · rw [List.mem_singleton.mp member] at isKey
      exact absurd isKey (by decide)
  have enabled : NotDisabled keyedFrontmatter {} "codex" :=
    isEnabled_iff_notDisabled.mp (by decide)
  refine ⟨distinct, ⟨fewer, stay, chosen⟩, fewest, lost, fun same => ?_⟩
  have disabled :=
    ((select_of_fewer keyedFrontmatter {} distinct fewest).2 lost (by decide)).mp same
  exact disabled "codex" (by decide) enabled

end Selection

end RuleCompiler
