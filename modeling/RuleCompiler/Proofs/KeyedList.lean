import RuleCompiler.KeyedList

/-!
Laws of keyed lists. Looking up after an insertion depends only on the two keys, whatever the
order of the list. An ordered list is determined by its look-ups, so two of them that answer every
key alike are equal.
-/

namespace RuleCompiler.KeyedList

variable {α : Type}

/-- Increasing keys, so that each occurs once. -/
def Ordered (entries : KeyedList α) : Prop :=
  entries.Pairwise fun earlier later => earlier.1 < later.1

instance (entries : KeyedList α) : Decidable (Ordered entries) :=
  inferInstanceAs (Decidable (entries.Pairwise fun earlier later => earlier.1 < later.1))

theorem get?_insert (entries : KeyedList α) (key other : String) (value : α) :
    (entries.insert key value).get? other =
      if key = other then some value else entries.get? other := by
  induction entries with
  | nil => simp only [insert, get?]
  | cons entry rest ih =>
      obtain ⟨name, old⟩ := entry
      by_cases same : key = name
      · subst same
        by_cases found : key = other
        · simp only [insert, get?, if_pos found, if_true]
        · simp only [insert, get?, if_neg found, if_true]
      · by_cases before : key < name
        · simp only [insert, get?, if_neg same, if_pos before]
        · simp only [insert, get?, if_neg same, if_neg before, ih]
          by_cases atName : name = other
          · have different : ¬ key = other := fun equal => same (equal.trans atName.symm)
            simp only [if_pos atName, if_neg different]
          · simp only [if_neg atName]

theorem contains_iff_mem_keys {entries : KeyedList α} {key : String} :
    contains entries key = true ↔ key ∈ keys entries := by
  unfold contains keys
  induction entries with
  | nil => exact iff_of_false Bool.false_ne_true List.not_mem_nil
  | cons entry rest ih =>
      obtain ⟨name, value⟩ := entry
      rw [get?, List.map_cons, List.mem_cons]
      by_cases same : name = key
      · rw [if_pos same]
        exact iff_of_true rfl (Or.inl same.symm)
      · rw [if_neg same, ih]
        exact (or_iff_right fun equal => same equal.symm).symm

theorem get?_insert_self (entries : KeyedList α) (key : String) (value : α) :
    (entries.insert key value).get? key = some value := by
  rw [get?_insert, if_pos rfl]

theorem get?_insert_of_ne (entries : KeyedList α) {key other : String} (value : α)
    (different : key ≠ other) : (entries.insert key value).get? other = entries.get? other := by
  rw [get?_insert, if_neg different]

/-- Which value is inserted does not matter at another key. -/
theorem get?_insert_either (entries : KeyedList α) {key other : String} (different : key ≠ other)
    (first second : α) :
    (entries.insert key first).get? other = (entries.insert key second).get? other := by
  rw [get?_insert_of_ne entries first different, get?_insert_of_ne entries second different]

theorem insert_insert (entries : KeyedList α) (key : String) (first second : α) :
    (entries.insert key first).insert key second = entries.insert key second := by
  induction entries with
  | nil => simp only [insert, if_true]
  | cons entry rest ih =>
      obtain ⟨name, old⟩ := entry
      by_cases same : key = name
      · simp only [insert, if_pos same, if_true]
      · by_cases before : key < name
        · simp only [insert, if_neg same, if_pos before, if_true]
        · simp only [insert, if_neg same, if_neg before, ih]

/-- Entries inserted one after the other: a key has what they say last, or else what it had. -/
theorem get?_foldl_insert (entries : List (String × α)) (base : KeyedList α) (key : String) :
    (entries.foldl (fun map (name, value) => map.insert name value) base).get? key =
      ((ofList entries).get? key).or (base.get? key) := by
  unfold ofList
  induction entries generalizing base with
  | nil => rfl
  | cons entry rest ih =>
      obtain ⟨name, value⟩ := entry
      rw [List.foldl_cons, List.foldl_cons, ih, ih (insert [] name value), Option.or_assoc]
      congr 1
      rw [get?_insert, get?_insert]
      split
      · rfl
      · rfl

theorem mem_insert {entries : KeyedList α} {key : String} {value : α} {entry : String × α}
    (member : entry ∈ entries.insert key value) : entry = (key, value) ∨ entry ∈ entries := by
  induction entries with
  | nil => exact Or.inl (List.mem_singleton.mp member)
  | cons head rest ih =>
      obtain ⟨name, old⟩ := head
      by_cases same : key = name
      · simp only [insert, if_pos same, List.mem_cons] at member
        exact member.imp id (List.mem_cons_of_mem _)
      · by_cases before : key < name
        · simp only [insert, if_neg same, if_pos before, List.mem_cons (b := (key, value))] at member
          exact member
        · simp only [insert, if_neg same, if_neg before, List.mem_cons (a := entry)] at member
          rcases member with atHead | inRest
          · exact Or.inr (List.mem_cons.mpr (Or.inl atHead))
          · exact (ih inRest).imp id (List.mem_cons_of_mem _)

theorem Ordered.insert {entries : KeyedList α} (ordered : Ordered entries) (key : String)
    (value : α) : Ordered (entries.insert key value) := by
  induction entries with
  | nil => exact List.pairwise_singleton _ _
  | cons entry rest ih =>
      obtain ⟨name, old⟩ := entry
      have headTail := List.pairwise_cons.mp ordered
      by_cases same : key = name
      · subst same
        simp only [KeyedList.insert, if_true]
        exact List.pairwise_cons.mpr headTail
      · by_cases before : key < name
        · simp only [KeyedList.insert, if_neg same, if_pos before]
          refine List.pairwise_cons.mpr ⟨?_, ordered⟩
          intro later member
          rcases List.mem_cons.mp member with atHead | inRest
          · rw [atHead]
            exact before
          · exact String.lt_trans before (headTail.1 later inRest)
        · simp only [KeyedList.insert, if_neg same, if_neg before]
          refine List.pairwise_cons.mpr ⟨?_, ih headTail.2⟩
          intro later member
          rcases mem_insert member with inserted | inRest
          · rw [inserted]
            exact Std.lt_of_le_of_ne before fun equal => same equal.symm
          · exact headTail.1 later inRest

theorem mem_of_get? {entries : KeyedList α} {key : String} {value : α}
    (found : entries.get? key = some value) : (key, value) ∈ entries := by
  induction entries with
  | nil => cases found
  | cons entry rest ih =>
      obtain ⟨name, old⟩ := entry
      simp only [get?] at found
      split at found
      · rename_i same
        cases found
        rw [same]
        exact List.mem_cons_self
      · exact List.mem_cons_of_mem _ (ih found)

theorem get?_eq_none_of_lt {entries : KeyedList α} {key : String}
    (later : ∀ entry ∈ entries, key < entry.1) : entries.get? key = none := by
  rw [← Option.not_isSome_iff_eq_none]
  intro found
  obtain ⟨value, isThere⟩ := Option.isSome_iff_exists.mp found
  exact String.lt_irrefl _ (later _ (mem_of_get? isThere))

theorem Ordered.length_insert {entries : KeyedList α} (ordered : Ordered entries) (key : String)
    (value : α) :
    (entries.insert key value).length =
      entries.length + if (entries.get? key).isSome = true then 0 else 1 := by
  induction entries with
  | nil => rfl
  | cons entry rest ih =>
      obtain ⟨name, old⟩ := entry
      have headTail := List.pairwise_cons.mp ordered
      by_cases same : key = name
      · subst same
        simp only [KeyedList.insert, get?, if_true, List.length_cons, Option.isSome_some,
          Nat.add_zero]
      · by_cases before : key < name
        · -- All later keys lie behind this one.
          have absent : get? rest key = none :=
            get?_eq_none_of_lt fun later member => String.lt_trans before (headTail.1 later member)
          simp only [KeyedList.insert, get?, if_neg same, if_pos before, if_neg (Ne.symm same),
            absent, Option.isSome_none, Bool.false_eq_true, if_false, List.length_cons]
        · simp only [KeyedList.insert, get?, if_neg same, if_neg before, if_neg (Ne.symm same),
            List.length_cons, ih headTail.2]
          omega

theorem Ordered.get?_of_mem {entries : KeyedList α} (ordered : Ordered entries) {key : String}
    {value : α} (member : (key, value) ∈ entries) : entries.get? key = some value := by
  induction entries with
  | nil => cases member
  | cons entry rest ih =>
      obtain ⟨name, old⟩ := entry
      have headTail := List.pairwise_cons.mp ordered
      rcases List.mem_cons.mp member with atHead | inRest
      · cases atHead
        simp only [get?, if_true]
      · have different : name ≠ key := String.ne_of_lt (headTail.1 _ inRest)
        simp only [get?, if_neg different]
        exact ih headTail.2 inRest

theorem Ordered.mem_iff {entries : KeyedList α} (ordered : Ordered entries) {key : String}
    {value : α} : (key, value) ∈ entries ↔ entries.get? key = some value :=
  ⟨ordered.get?_of_mem, mem_of_get?⟩

theorem Ordered.keys_nodup {entries : KeyedList α} (ordered : Ordered entries) :
    entries.keys.Nodup :=
  List.pairwise_map.mpr (ordered.imp fun before => String.ne_of_lt before)

theorem Ordered.nodup {entries : KeyedList α} (ordered : Ordered entries) :
    List.Nodup entries := by
  refine List.Pairwise.imp ?_ ordered
  intro earlier later before equal
  rw [equal] at before
  exact String.lt_irrefl _ before

/-- Ordered lists that answer every key alike are equal. -/
theorem Ordered.ext {left right : KeyedList α} (leftOrdered : Ordered left)
    (rightOrdered : Ordered right) (alike : ∀ key, left.get? key = right.get? key) :
    left = right := by
  have members : ∀ entry, entry ∈ left ↔ entry ∈ right := by
    intro ⟨key, value⟩
    rw [leftOrdered.mem_iff, rightOrdered.mem_iff, alike]
  have sameEntries : left.Perm right :=
    (List.perm_ext_iff_of_nodup leftOrdered.nodup rightOrdered.nodup).mpr members
  exact sameEntries.eq_of_pairwise
    (fun _ _ _ _ before after => absurd after (String.lt_asymm before)) leftOrdered rightOrdered

end RuleCompiler.KeyedList
