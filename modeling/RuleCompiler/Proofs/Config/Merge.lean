import RuleCompiler.Config.Project
import RuleCompiler.Proofs.KeyedList

/-!
Merged values, path by path. Where the overlay has a value, the merged value has that value merged
over what the base has there; where a path leaves the overlay at a missing key, the base is left as
it was. So an overlay that was merged once changes nothing when it is merged again.
-/

namespace RuleCompiler.Value

/-- Every object in the value, at any depth, holds its fields by increasing key. -/
inductive WellFormed : (value : Value) → Prop
  | null : WellFormed .null
  | bool (value : Bool) : WellFormed (.bool value)
  | number (value : Number) : WellFormed (.number value)
  | string (text : String) : WellFormed (.string text)
  | array {items : List Value} (each : ∀ item ∈ items, WellFormed item) :
      WellFormed (.array items)
  | object {fields : Fields} (ordered : fields.Ordered)
      (each : ∀ field ∈ fields, WellFormed field.2) : WellFormed (.object fields)

theorem WellFormed.ordered {fields : Fields} (wellFormed : (Value.object fields).WellFormed) :
    fields.Ordered := by
  cases wellFormed with
  | object ordered each => exact ordered

theorem WellFormed.get? {value inner : Value} {key : String} (wellFormed : value.WellFormed)
    (found : value.get? key = some inner) : inner.WellFormed := by
  cases wellFormed with
  | object ordered each => exact each _ (KeyedList.mem_of_get? found)
  | null => cases found
  | bool => cases found
  | number => cases found
  | string => cases found
  | array => cases found

theorem WellFormed.at? {value inner : Value} {path : List String} (wellFormed : value.WellFormed)
    (found : value.at? path = some inner) : inner.WellFormed := by
  induction path generalizing value with
  | nil =>
      cases found
      exact wellFormed
  | cons key rest ih =>
      rw [Value.at?] at found
      obtain ⟨next, atKey, foundBelow⟩ := Option.bind_eq_some_iff.mp found
      exact ih (wellFormed.get? atKey) foundBelow

/-! ### One level -/

theorem mergeOver_of_plain (base : Value) {overlay : Value} (plain : overlay.asObject? = none) :
    base.mergeOver overlay = overlay := by
  cases overlay with
  | object fields => cases plain
  | _ => rw [mergeOver]; nofun

theorem plain_mergeOver {base : Value} (plain : base.asObject? = none) (overlay : Value) :
    base.mergeOver overlay = overlay := by
  cases overlay with
  | object fields =>
      cases base with
      | object old => cases plain
      | _ => rw [mergeOver]; nofun
  | _ => rw [mergeOver]; nofun

theorem object_mergeOver_object (old fields : Fields) :
    (object old).mergeOver (object fields) = object (mergeFieldsOver old fields) := by
  rw [mergeOver]

theorem get?_mergeFieldsOver {overlay : Fields} (ordered : overlay.Ordered) (base : Fields)
    (key : String) :
    (mergeFieldsOver base overlay).get? key =
      match overlay.get? key with
      | some value => some (((base.get? key).getD .null).mergeOver value)
      | none => base.get? key := by
  induction overlay generalizing base with
  | nil => rw [mergeFieldsOver, KeyedList.get?]
  | cons field rest ih =>
      obtain ⟨name, value⟩ := field
      obtain ⟨later, restOrdered⟩ := List.pairwise_cons.mp ordered
      rw [mergeFieldsOver, ih restOrdered, KeyedList.get?_insert, KeyedList.get?]
      by_cases same : name = key
      · subst same
        have absent : KeyedList.get? rest name = none := KeyedList.get?_eq_none_of_lt later
        rw [absent, if_pos rfl, if_pos rfl]
        cases base.get? name with
        | some old => rfl
        | none => exact congrArg some (plain_mergeOver rfl value).symm
      · rw [if_neg same, if_neg same]

theorem get?_mergeOver {overlay : Value} (wellFormed : overlay.WellFormed)
    (isObject : overlay.asObject?.isSome = true) (base : Value) (key : String) :
    (base.mergeOver overlay).get? key =
      match overlay.get? key with
      | some value => some (((base.get? key).getD .null).mergeOver value)
      | none => base.get? key := by
  cases overlay with
  | object fields =>
      cases base with
      | object old =>
          rw [object_mergeOver_object]
          exact get?_mergeFieldsOver wellFormed.ordered old key
      | _ =>
          rw [plain_mergeOver rfl]
          change KeyedList.get? fields key = _
          rw [Value.get?]
          cases KeyedList.get? fields key with
          | none => rfl
          | some value => exact congrArg some (plain_mergeOver rfl value).symm
  | _ => cases isObject

/-! ### Along a path -/

theorem at?_cons (value : Value) (key : String) (path : List String) :
    value.at? (key :: path) = (value.get? key).bind fun inner => inner.at? path := by
  rw [at?]

/-- Where a key is missing, the path may as well go on from a value without keys. -/
theorem at?_getD_null (value? : Option Value) (path : List String) :
    ((value?.getD .null).at? path).getD .null =
      (value?.bind fun value => value.at? path).getD .null := by
  cases value? with
  | some value => rfl
  | none =>
      cases path with
      | nil => rfl
      | cons key rest => rfl

theorem isSome_asObject?_of_get? {value inner : Value} {key : String}
    (found : value.get? key = some inner) : value.asObject?.isSome = true := by
  cases value with
  | object fields => rfl
  | _ => cases found

/-- Where the overlay has a value, it is merged over what the base has there. -/
theorem at?_mergeOver {overlay : Value} (wellFormed : overlay.WellFormed) (base : Value)
    {path : List String} {value : Value} (found : overlay.at? path = some value) :
    (base.mergeOver overlay).at? path = some (((base.at? path).getD .null).mergeOver value) := by
  induction path generalizing base overlay with
  | nil =>
      cases found
      rfl
  | cons key rest ih =>
      rw [at?_cons] at found
      obtain ⟨inner, atKey, foundBelow⟩ := Option.bind_eq_some_iff.mp found
      have isObject := isSome_asObject?_of_get? atKey
      have merged : (base.mergeOver overlay).get? key =
          some (((base.get? key).getD .null).mergeOver inner) := by
        rw [get?_mergeOver wellFormed isObject, atKey]
      rw [at?_cons, at?_cons, merged, Option.bind_some, ih (wellFormed.get? atKey) _ foundBelow,
        at?_getD_null]

/-- Where a path leaves the overlay at a missing key, the base is as it was. -/
theorem at?_mergeOver_of_missing {overlay : Value} (wellFormed : overlay.WellFormed)
    (base : Value) {path : List String} (missing : overlay.at? path = none)
    (objects : ∀ lead value, lead <+: path → lead ≠ path → overlay.at? lead = some value →
      value.asObject?.isSome = true) :
    (base.mergeOver overlay).at? path = base.at? path := by
  induction path generalizing base overlay with
  | nil => cases missing
  | cons key rest ih =>
      have isObject := objects [] overlay List.nil_prefix (List.cons_ne_nil key rest).symm rfl
      rw [at?_cons, at?_cons, get?_mergeOver wellFormed isObject]
      cases atKey : overlay.get? key with
      | none => rfl
      | some inner =>
          rw [at?_cons, atKey, Option.bind_some] at missing
          have below : ∀ lead value, lead <+: rest → lead ≠ rest → inner.at? lead = some value →
              value.asObject?.isSome = true := by
            intro lead value onWay shorter found
            refine objects (key :: lead) value (List.prefix_cons_inj key |>.mpr onWay) ?_ ?_
            · exact fun same => shorter (List.cons.inj same).2
            · rw [at?_cons, atKey, Option.bind_some, found]
          rw [Option.bind_some, ih (wellFormed.get? atKey) _ missing below]
          cases base.get? key with
          | some old => rfl
          | none =>
              -- The overlay has a value at the key, so the path goes on behind it.
              cases rest with
              | nil => cases missing
              | cons next more => rfl

/-! ### Once more -/

theorem ordered_mergeFieldsOver {base : Fields} (ordered : base.Ordered) (overlay : Fields) :
    (mergeFieldsOver base overlay).Ordered := by
  induction overlay generalizing base with
  | nil =>
      rw [mergeFieldsOver]
      exact ordered
  | cons field rest ih =>
      rw [mergeFieldsOver]
      exact ih (ordered.insert _ _)

theorem WellFormed.getD_null {value : Value} (wellFormed : value.WellFormed) (key : String) :
    ((value.get? key).getD .null).WellFormed := by
  cases found : value.get? key with
  | none => exact .null
  | some inner => exact wellFormed.get? found

theorem WellFormed.mergeOver {base overlay : Value} (baseFormed : base.WellFormed)
    (overlayFormed : overlay.WellFormed) : (base.mergeOver overlay).WellFormed := by
  induction overlayFormed generalizing base with
  | object ordered each ih =>
      rename_i fields
      cases base with
      | object old =>
          have mergedOrdered := ordered_mergeFieldsOver baseFormed.ordered fields
          rw [object_mergeOver_object]
          refine .object mergedOrdered fun field member => ?_
          obtain ⟨key, value⟩ := field
          have found := mergedOrdered.get?_of_mem member
          rw [get?_mergeFieldsOver ordered] at found
          split at found
          · next inner atKey =>
              cases found
              exact ih _ (KeyedList.mem_of_get? atKey) (baseFormed.getD_null key)
          · exact baseFormed.get? found
      | _ =>
          rw [plain_mergeOver rfl]
          exact .object ordered each
  | array each =>
      rw [mergeOver_of_plain _ rfl]
      exact .array each
  | null => rw [mergeOver_of_plain _ rfl]; exact .null
  | bool => rw [mergeOver_of_plain _ rfl]; exact .bool _
  | number => rw [mergeOver_of_plain _ rfl]; exact .number _
  | string => rw [mergeOver_of_plain _ rfl]; exact .string _

/-- An overlay that was merged changes nothing when it is merged again. -/
theorem mergeOver_mergeOver {base overlay : Value} (baseFormed : base.WellFormed)
    (overlayFormed : overlay.WellFormed) :
    (base.mergeOver overlay).mergeOver overlay = base.mergeOver overlay := by
  induction overlayFormed generalizing base with
  | object ordered each ih =>
      rename_i fields
      have overlayFormed : (Value.object fields).WellFormed := .object ordered each
      obtain ⟨merged, isMerged⟩ :
          ∃ merged : Fields, base.mergeOver (.object fields) = .object merged := by
        cases base with
        | object old => exact ⟨_, object_mergeOver_object old fields⟩
        | _ => exact ⟨fields, plain_mergeOver rfl _⟩
      have mergedOrdered : merged.Ordered := by
        have mergedFormed := baseFormed.mergeOver overlayFormed
        rw [isMerged] at mergedFormed
        exact mergedFormed.ordered
      rw [isMerged, object_mergeOver_object]
      congr 1
      apply (ordered_mergeFieldsOver mergedOrdered fields).ext mergedOrdered
      intro key
      rw [get?_mergeFieldsOver ordered]
      cases atKey : KeyedList.get? fields key with
      | none => rfl
      | some value =>
          have found : KeyedList.get? merged key =
              some (((base.get? key).getD .null).mergeOver value) := by
            have merging := get?_mergeOver overlayFormed rfl base key
            rw [isMerged] at merging
            exact merging.trans (by rw [Value.get?, atKey])
          rw [found, Option.getD_some]
          exact congrArg some (ih _ (KeyedList.mem_of_get? atKey) (baseFormed.getD_null key))
  | _ => rw [mergeOver_of_plain _ rfl, mergeOver_of_plain _ rfl]

/-! ### Objects over objects -/

theorem mem_keys_iff_isSome {fields : Fields} {key : String} :
    key ∈ fields.keys ↔ (fields.get? key).isSome = true :=
  KeyedList.contains_iff_mem_keys.symm

theorem mem_keys_mergeFieldsOver {overlay : Fields} (ordered : overlay.Ordered) (base : Fields)
    (key : String) :
    key ∈ (mergeFieldsOver base overlay).keys ↔ key ∈ base.keys ∨ key ∈ overlay.keys := by
  rw [mem_keys_iff_isSome, mem_keys_iff_isSome, mem_keys_iff_isSome,
    get?_mergeFieldsOver ordered]
  cases overlay.get? key with
  | none => exact (or_iff_left Bool.false_ne_true).symm
  | some value => exact iff_of_true rfl (Or.inr rfl)

/-- An object merged over another, path by path: what the overlay says is there, two objects share
their keys, and where the overlay is silent the base shows through. To say it twice adds nothing. -/
theorem mergeOver_along_paths {base overlay : Fields} (baseFormed : (object base).WellFormed)
    (overlayFormed : (object overlay).WellFormed) :
    let merged := (object base).mergeOver (object overlay)
    (∀ path value, (object overlay).at? path = some value → value.asObject? = none →
      merged.at? path = some value) ∧
    (∀ path fields, (object overlay).at? path = some (object fields) →
      (∀ old, (object base).at? path ≠ some (object old)) →
      merged.at? path = some (object fields)) ∧
    (∀ path (fields old : Fields), (object overlay).at? path = some (object fields) →
      (object base).at? path = some (object old) →
      ∃ both : Fields, merged.at? path = some (object both) ∧
        ∀ key, key ∈ both.keys ↔ key ∈ old.keys ∨ key ∈ fields.keys) ∧
    (∀ path, (object overlay).at? path = none →
      (∀ lead value, lead <+: path → lead ≠ path → (object overlay).at? lead = some value →
        value.asObject?.isSome = true) →
      merged.at? path = (object base).at? path) ∧
    merged.mergeOver (object overlay) = merged := by
  intro merged
  refine ⟨?_, ?_, ?_, ?_, mergeOver_mergeOver baseFormed overlayFormed⟩
  · intro path value found plain
    rw [at?_mergeOver overlayFormed _ found, mergeOver_of_plain _ plain]
  · intro path fields found noObject
    have plain : (((object base).at? path).getD .null).asObject? = none := by
      cases there : (object base).at? path with
      | none => rfl
      | some old =>
          cases old with
          | object inner => exact absurd there (noObject inner)
          | _ => rfl
    rw [at?_mergeOver overlayFormed _ found, plain_mergeOver plain]
  · intro path fields old found there
    have ordered := (overlayFormed.at? found).ordered
    refine ⟨mergeFieldsOver old fields, ?_, mem_keys_mergeFieldsOver ordered old⟩
    rw [at?_mergeOver overlayFormed _ found, there, Option.getD_some, object_mergeOver_object]
  · intro path missing objects
    exact at?_mergeOver_of_missing overlayFormed _ missing objects

/-- A setting takes the place of a block, a block that of a setting, and a third block is shared. -/
theorem mergeOver_along_paths_of_settings :
    let base : Fields :=
      [("a", .object [("x", .bool true)]), ("b", .bool true), ("c", .object [("y", .null)])]
    let overlay : Fields :=
      [("a", .string "off"), ("b", .object [("z", .null)]), ("c", .object [("x", .array [])])]
    let merged := (object base).mergeOver (object overlay)
    (object base).WellFormed ∧ (object overlay).WellFormed ∧
    merged.at? ["a"] = some (.string "off") ∧
    merged.at? ["b"] = some (.object [("z", .null)]) ∧
    (∃ both : Fields, merged.at? ["c"] = some (.object both) ∧
      ∀ key, key ∈ both.keys ↔ key ∈ ["y"] ∨ key ∈ ["x"]) ∧
    merged.at? ["c", "y"] = some .null ∧
    merged.mergeOver (object overlay) = merged := by
  intro base overlay merged
  have field {key : String} {value : Value} (formed : value.WellFormed) :
      (object [(key, value)]).WellFormed :=
    .object (List.pairwise_singleton _ _) (List.forall_mem_singleton.mpr formed)
  have baseFormed : (object base).WellFormed := by
    refine .object (by decide) (List.forall_mem_cons.mpr ⟨field (.bool true), ?_⟩)
    exact List.forall_mem_cons.mpr ⟨.bool true, List.forall_mem_singleton.mpr (field .null)⟩
  have overlayFormed : (object overlay).WellFormed := by
    refine .object (by decide) (List.forall_mem_cons.mpr ⟨.string "off", ?_⟩)
    exact List.forall_mem_cons.mpr
      ⟨field .null, List.forall_mem_singleton.mpr (field (.array nofun))⟩
  obtain ⟨scalars, clashes, shared, silent, again⟩ := mergeOver_along_paths baseFormed overlayFormed
  refine ⟨baseFormed, overlayFormed, scalars ["a"] _ rfl rfl, clashes ["b"] _ rfl nofun,
    shared ["c"] _ _ rfl rfl, silent ["c", "y"] rfl ?_, again⟩
  intro lead value onWay shorter found
  rcases List.prefix_cons_iff.mp onWay with rfl | ⟨below, rfl, onWayBelow⟩
  · cases found
    rfl
  · rcases List.prefix_cons_iff.mp onWayBelow with rfl | ⟨last, rfl, atEnd⟩
    · cases found
      rfl
    · rw [List.prefix_nil.mp atEnd] at shorter
      exact absurd rfl shorter

end RuleCompiler.Value
