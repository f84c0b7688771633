import Mathlib.Data.List.Nodup
import RuleCompiler.Proofs.KeyedList
import RuleCompiler.Record

/-!
Reading records that were written. A written record has distinct names, so that under each name it
holds what was written there; a field that was left out is missing, and one that is null is not.
What the readers of the fields find one after the other is found by the reader of the record.
-/

namespace RuleCompiler

namespace KeyedList

variable {α : Type}

theorem get?_eq_none_of_not_mem {entries : KeyedList α} {key : String}
    (absent : key ∉ entries.map Prod.fst) : entries.get? key = none := by
  rw [← Option.not_isSome_iff_eq_none]
  intro found
  obtain ⟨value, isThere⟩ := Option.isSome_iff_exists.mp found
  exact absent (List.mem_map.mpr ⟨(key, value), mem_of_get? isThere, rfl⟩)

/-- Where the keys are distinct, inserting the entries one after the other loses none. -/
theorem get?_ofList {entries : List (String × α)} (distinct : (entries.map Prod.fst).Nodup)
    (key : String) : (ofList entries).get? key = get? entries key := by
  induction entries with
  | nil => rfl
  | cons entry rest ih =>
      obtain ⟨name, value⟩ := entry
      obtain ⟨absent, restDistinct⟩ := List.nodup_cons.mp distinct
      have opened : (ofList ((name, value) :: rest)).get? key =
          (get? rest key).or (get? [(name, value)] key) := by
        rw [← ih restDistinct]
        exact get?_foldl_insert rest [(name, value)] key
      rw [opened]
      simp only [get?]
      by_cases same : name = key
      · have notLater : get? rest key = none := by
          rw [← same]
          exact get?_eq_none_of_not_mem absent
        rw [if_pos same, if_pos same, notLater, Option.none_or]
      · rw [if_neg same, if_neg same, Option.or_none]

end KeyedList

namespace Record

variable {α β : Type}

/-- The entries of a written record, by name; one without a value is left out. -/
abbrev Entries := KeyedList (Option Value)

def present (entries : Entries) : Fields :=
  entries.filterMap fun (name, value) => value.map (name, ·)

theorem present_cons_none (name : String) (rest : Entries) :
    present ((name, none) :: rest) = present rest :=
  rfl

theorem present_cons_some (name : String) (value : Value) (rest : Entries) :
    present ((name, some value) :: rest) = (name, value) :: present rest :=
  rfl

theorem present_sublist (entries : Entries) :
    ((present entries).map Prod.fst).Sublist (entries.map Prod.fst) := by
  induction entries with
  | nil => exact List.Sublist.refl []
  | cons entry rest ih =>
      obtain ⟨name, value⟩ := entry
      cases value with
      | none =>
          rw [present_cons_none]
          exact ih.cons name
      | some value =>
          rw [present_cons_some]
          exact ih.cons_cons name

theorem get?_present {entries : Entries} (distinct : (entries.map Prod.fst).Nodup)
    (key : String) : (present entries).get? key = (entries.get? key).join := by
  induction entries with
  | nil => rfl
  | cons entry rest ih =>
      obtain ⟨name, value⟩ := entry
      obtain ⟨absent, restDistinct⟩ := List.nodup_cons.mp distinct
      have onward := ih restDistinct
      cases value with
      | none =>
          rw [present_cons_none, onward, KeyedList.get?]
          by_cases same : name = key
          · rw [if_pos same, ← same, KeyedList.get?_eq_none_of_not_mem absent]
            rfl
          · rw [if_neg same]
      | some value =>
          rw [present_cons_some, KeyedList.get?, KeyedList.get?, onward]
          by_cases same : name = key
          · rw [if_pos same, if_pos same]
            rfl
          · rw [if_neg same, if_neg same]

/-! ### Fields -/

/-- A reader finds a value in every record that holds these entries, and leaves the record as it
is. -/
def Reads (entries : Entries) (field : Field α) (value : α) : Prop :=
  ∀ fields : Fields, (∀ key, fields.get? key = (entries.get? key).join) →
    field (.named fields) = some (value, .named fields)

namespace Reads

variable {entries : Entries}

theorem pure (value : α) : Reads entries (Pure.pure value) value :=
  fun _ _ => rfl

theorem bind {first : Field α} {onward : α → Field β} {value : α} {result : β}
    (readsFirst : Reads entries first value) (readsOnward : Reads entries (onward value) result) :
    Reads entries (first >>= onward) result := by
  intro fields holds
  have opened : (first >>= onward) (.named fields) =
      (first (.named fields)).bind fun found => onward found.1 found.2 := rfl
  rw [opened, readsFirst fields holds, Option.bind_some]
  exact readsOnward fields holds

theorem next (name : String) : Reads entries (Record.next name) (entries.get? name).join := by
  intro fields holds
  rw [Record.next, holds]

theorem ofDecoded {decoded : Option α} {value : α} (isValue : decoded = some value) :
    Reads entries (fun record => decoded.map (·, record)) value := by
  intro fields holds
  rw [isValue]
  rfl

variable {name : String} {decode : Decoder α} {written : Value} {value : α}

theorem required (found : entries.get? name = some (some written))
    (back : decode written = some value) : Reads entries (Record.required name decode) value := by
  refine (next name).bind ?_
  rw [found]
  exact ofDecoded back

theorem defaulted {standIn : α} (found : entries.get? name = some (some written))
    (back : decode written = some value) :
    Reads entries (Record.defaulted name standIn decode) value := by
  refine (next name).bind ?_
  rw [found]
  exact ofDecoded back

theorem missing {standIn : α} (absent : (entries.get? name).join = none) :
    Reads entries (Record.defaulted name standIn decode) standIn := by
  refine (next name).bind ?_
  rw [absent]
  exact pure standIn

/-- An option that is left out when it has no value. -/
theorem optional {encode : α → Value} {given : Option α}
    (found : entries.get? name = some (given.map encode))
    (back : ∀ value, given = some value → nullable decode (encode value) = some (some value)) :
    Reads entries (Record.optional name decode) given := by
  cases given with
  | none =>
      apply missing
      rw [found]
      rfl
  | some value => exact defaulted found (back value rfl)

end Reads

/-! ### Records -/

theorem read_ofPresent {entries : Entries} {field : Field α} {value : α}
    (distinct : (entries.map Prod.fst).Nodup) (reads : Reads entries field value) :
    read field (.ofPresent entries) = some value := by
  have holds : ∀ key, (KeyedList.ofList (present entries)).get? key = (entries.get? key).join := by
    intro key
    rw [KeyedList.get?_ofList (distinct.sublist (present_sublist entries)), get?_present distinct]
  have opened : read field (.ofPresent entries) =
      (field (.named (KeyedList.ofList (present entries)))).map (·.1) := rfl
  rw [opened, reads _ holds]
  rfl

/-- A record whose fields are all written. -/
def full (entries : List (String × Value)) : Entries :=
  entries.map fun (name, value) => (name, some value)

theorem present_full (entries : List (String × Value)) : present (full entries) = entries := by
  induction entries with
  | nil => rfl
  | cons entry rest ih =>
      obtain ⟨name, value⟩ := entry
      exact congrArg ((name, value) :: ·) ih

theorem read_ofFields {entries : List (String × Value)} {field : Field α} {value : α}
    (distinct : ((full entries).map Prod.fst).Nodup) (reads : Reads (full entries) field value) :
    read field (.ofFields entries) = some value := by
  have asPresent := read_ofPresent distinct reads
  unfold Value.ofPresent at asPresent
  rwa [← present, present_full] at asPresent

/-! ### Values of fields -/

theorem listOf_map {decode : Decoder α} {encode : α → Value} {items : List α}
    (back : ∀ item ∈ items, decode (encode item) = some item) :
    listOf decode (.array (items.map encode)) = some items := by
  unfold listOf
  dsimp only
  induction items with
  | nil => rfl
  | cons item rest ih =>
      rw [List.map_cons, List.mapM_cons, back item List.mem_cons_self,
        ih fun other member => back other (List.mem_cons_of_mem item member)]
      rfl

theorem listOf_ofStrings (texts : List String) :
    listOf Value.asString? (.ofStrings texts) = some texts :=
  listOf_map fun _ _ => rfl

theorem nullable_object {decode : Decoder α} {fields : Fields} {value : α}
    (back : decode (.object fields) = some value) :
    nullable decode (.object fields) = some (some value) :=
  congrArg (Option.map some) back

/-- An option that is null when it has no value. -/
theorem nullable_ofString? (text : Option String) :
    nullable Value.asString? (.ofString? text) = some text := by
  cases text <;> rfl

end Record

end RuleCompiler
