import Mathlib.Data.List.Basic
import RuleCompiler.Config.Destination
import RuleCompiler.Proofs.Config.Merge

/-!
The configuration of a destination as the union of its layers. What a block says under a key does
not depend on what it is merged over, so each block can be flattened by itself, and a key is decided
by the most specific layer that has it when flattened.
-/

namespace RuleCompiler.DestinationConfig

/-- What a block says by itself, with its nested blocks in place. -/
def flat (block : Fields) : Fields :=
  mergeBlock [] block

/-- A block says this of the output: in either spelling, or in a nested block. -/
inductive SaysOutput : Fields → Value → Prop
  | outputPath {block : Fields} {value : Value} (said : ("outputPath", value) ∈ block) :
      SaysOutput block value
  | path {block : Fields} {value : Value} (said : ("path", value) ∈ block) :
      SaysOutput block value
  | nested {block inner : Fields} {value : Value} (inside : ("config", .object inner) ∈ block)
      (said : SaysOutput inner value) : SaysOutput block value

/-- Of all that a block says of the output, this is what counts: its own `outputPath`, or else its own
`path`, or else what counts in its nested block. -/
inductive SetsOutput : Fields → Value → Prop
  | outputPath {block : Fields} {value : Value} (found : block.get? "outputPath" = some value) :
      SetsOutput block value
  | path {block : Fields} {value : Value} (noOutputPath : block.get? "outputPath" = none)
      (found : block.get? "path" = some value) : SetsOutput block value
  | nested {block inner : Fields} {value : Value} (noOutputPath : block.get? "outputPath" = none)
      (noPath : block.get? "path" = none) (inside : block.get? "config" = some (.object inner))
      (sets : SetsOutput inner value) : SetsOutput block value

/-- Neither what a configuration leaves out nor a block that is not in place. -/
structure IsFlat (fields : Fields) : Prop where
  enabled : fields.get? "enabled" = none
  path : fields.get? "path" = none
  config : ∀ block, fields.get? "config" ≠ some (.object block)

/-! ### Merging over what is there -/

private theorem get?_insert_over (merged : Fields) (name : String) (value : Value) (key : String) :
    (merged.insert name value).get? key =
      ((KeyedList.insert [] name value).get? key).or (merged.get? key) := by
  rw [KeyedList.get?_insert, KeyedList.get?_insert]
  by_cases same : name = key
  · rw [if_pos same, if_pos same]
    rfl
  · rw [if_neg same, if_neg same]
    rfl

mutual

/-- Entries say the same over any fields, and what they leave unsaid stays. -/
theorem get?_mergeEntries (hasOutputPath : Bool) (merged : Fields)
    (entries : List (String × Value)) (key : String) :
    (mergeEntries hasOutputPath merged entries).get? key =
      ((mergeEntries hasOutputPath [] entries).get? key).or (merged.get? key) := by
  cases entries with
  | nil => rfl
  | cons entry rest =>
      rw [mergeEntries, mergeEntries, get?_mergeEntries hasOutputPath _ rest,
        get?_mergeEntries hasOutputPath (mergeEntry hasOutputPath [] entry) rest,
        get?_mergeEntry hasOutputPath merged entry, Option.or_assoc]
termination_by structural entries

theorem get?_mergeEntry (hasOutputPath : Bool) (merged : Fields) (entry : String × Value)
    (key : String) :
    (mergeEntry hasOutputPath merged entry).get? key =
      ((mergeEntry hasOutputPath [] entry).get? key).or (merged.get? key) := by
  obtain ⟨name, value⟩ := entry
  rw [mergeEntry, mergeEntry]
  split
  · rfl
  · split
    · exact get?_mergeNested merged value key
    · split
      · split
        · rfl
        · exact get?_insert_over merged "outputPath" value key
      · exact get?_insert_over merged name value key
termination_by structural entry

theorem get?_mergeNested (merged : Fields) (value : Value) (key : String) :
    (mergeNested merged value).get? key =
      ((mergeNested [] value).get? key).or (merged.get? key) := by
  cases value with
  | object inner => exact get?_mergeEntries (KeyedList.contains inner "outputPath") merged inner key
  | null => exact get?_insert_over merged "config" _ key
  | bool _ => exact get?_insert_over merged "config" _ key
  | number _ => exact get?_insert_over merged "config" _ key
  | string _ => exact get?_insert_over merged "config" _ key
  | array _ => exact get?_insert_over merged "config" _ key
termination_by structural value

end

theorem get?_mergeBlock (merged block : Fields) (key : String) :
    (mergeBlock merged block).get? key = ((flat block).get? key).or (merged.get? key) :=
  get?_mergeEntries (block.contains "outputPath") merged block key

/-- Of blocks merged one after the other, the last that has a key decides it. -/
theorem get?_foldl_mergeBlock (blocks : List Fields) (merged : Fields) (key : String) :
    (blocks.foldl mergeBlock merged).get? key =
      (blocks.reverse.findSome? fun block => (flat block).get? key).or (merged.get? key) := by
  induction blocks generalizing merged with
  | nil => rfl
  | cons block rest ih =>
      rw [List.foldl_cons, ih, get?_mergeBlock, List.reverse_cons, List.findSome?_append,
        List.findSome?_singleton, Option.or_assoc]

/-! ### What is left out -/

namespace IsFlat

variable {merged : Fields}

theorem empty : IsFlat [] where
  enabled := rfl
  path := rfl
  config _ := nofun

theorem insert (isFlat : IsFlat merged) {key : String} {value : Value} (notEnabled : key ≠ "enabled")
    (notPath : key ≠ "path") (notBlock : key = "config" → ∀ block, value ≠ .object block) :
    IsFlat (merged.insert key value) where
  enabled := by rw [KeyedList.get?_insert_of_ne _ _ notEnabled, isFlat.enabled]
  path := by rw [KeyedList.get?_insert_of_ne _ _ notPath, isFlat.path]
  config block := by
    by_cases isConfig : key = "config"
    · rw [isConfig, KeyedList.get?_insert_self]
      exact fun found => notBlock isConfig block (Option.some.inj found)
    · rw [KeyedList.get?_insert_of_ne _ _ isConfig]
      exact isFlat.config block

mutual

theorem mergeEntries (hasOutputPath : Bool) {merged : Fields} (isFlat : IsFlat merged)
    (entries : List (String × Value)) :
    IsFlat (DestinationConfig.mergeEntries hasOutputPath merged entries) := by
  cases entries with
  | nil => exact isFlat
  | cons entry rest =>
      rw [DestinationConfig.mergeEntries]
      exact mergeEntries hasOutputPath (mergeEntry hasOutputPath isFlat entry) rest
termination_by structural entries

theorem mergeEntry (hasOutputPath : Bool) {merged : Fields} (isFlat : IsFlat merged)
    (entry : String × Value) :
    IsFlat (DestinationConfig.mergeEntry hasOutputPath merged entry) := by
  obtain ⟨key, value⟩ := entry
  rw [DestinationConfig.mergeEntry]
  split
  · exact isFlat
  · next notEnabled =>
      split
      · exact mergeNested isFlat value
      · next notConfig =>
          split
          · split
            · exact isFlat
            · exact isFlat.insert (by decide) (by decide) fun other => absurd other (by decide)
          · next notPath =>
              exact isFlat.insert notEnabled notPath fun isConfig => absurd isConfig notConfig
termination_by structural entry

theorem mergeNested {merged : Fields} (isFlat : IsFlat merged) (value : Value) :
    IsFlat (DestinationConfig.mergeNested merged value) := by
  cases value with
  | object inner => exact mergeEntries (KeyedList.contains inner "outputPath") isFlat inner
  | null => exact isFlat.insert (by decide) (by decide) fun _ _ => nofun
  | bool _ => exact isFlat.insert (by decide) (by decide) fun _ _ => nofun
  | number _ => exact isFlat.insert (by decide) (by decide) fun _ _ => nofun
  | string _ => exact isFlat.insert (by decide) (by decide) fun _ _ => nofun
  | array _ => exact isFlat.insert (by decide) (by decide) fun _ _ => nofun
termination_by structural value

end

theorem foldl_mergeBlock (isFlat : IsFlat merged) (blocks : List Fields) :
    IsFlat (blocks.foldl mergeBlock merged) := by
  induction blocks generalizing merged with
  | nil => exact isFlat
  | cons block rest ih => exact ih (isFlat.mergeEntries _ block)

end IsFlat

/-! ### Entry by entry -/

section Entries

variable {hasOutputPath : Bool} {key : String}

/-- An entry under another key is silent, unless it is a nested block or an older spelling. -/
theorem get?_mergeEntry_other {name : String} {value : Value} (other : name ≠ key)
    (notConfig : name ≠ "config")
    (spelled : key = "outputPath" → name = "path" → hasOutputPath = true) :
    (mergeEntry hasOutputPath [] (name, value)).get? key = none := by
  simp only [mergeEntry, if_neg notConfig]
  split
  · rfl
  · split
    · next isPath =>
        split
        · rfl
        · next notSpelled =>
            exact KeyedList.get?_insert_of_ne [] value fun isOutput =>
              notSpelled (spelled isOutput.symm isPath)
    · exact KeyedList.get?_insert_of_ne [] value other

theorem mergeEntries_append (merged : Fields) (first second : List (String × Value)) :
    mergeEntries hasOutputPath merged (first ++ second) =
      mergeEntries hasOutputPath (mergeEntries hasOutputPath merged first) second := by
  induction first generalizing merged with
  | nil => rfl
  | cons entry rest ih =>
      rw [List.cons_append, mergeEntries, mergeEntries]
      exact ih _

theorem get?_mergeEntries_silent {entries : List (String × Value)}
    (silent : ∀ entry ∈ entries, (mergeEntry hasOutputPath [] entry).get? key = none) :
    (mergeEntries hasOutputPath [] entries).get? key = none := by
  induction entries with
  | nil => rfl
  | cons entry rest ih =>
      rw [mergeEntries, get?_mergeEntries, silent entry List.mem_cons_self,
        ih fun other member => silent other (List.mem_cons_of_mem entry member)]
      rfl

/-- The last entry that says something under a key decides it. -/
theorem get?_mergeEntries_last {lead rest : List (String × Value)} {entry : String × Value}
    {value : Value} (told : (mergeEntry hasOutputPath [] entry).get? key = some value)
    (silent : ∀ other ∈ rest, (mergeEntry hasOutputPath [] other).get? key = none) :
    (mergeEntries hasOutputPath [] (lead ++ entry :: rest)).get? key = some value := by
  rw [mergeEntries_append, mergeEntries, get?_mergeEntries, get?_mergeEntries_silent silent,
    get?_mergeEntry, told]
  rfl

theorem contains_mergeEntries_iff (hasOutputPath : Bool) (entries : List (String × Value))
    (key : String) :
    (mergeEntries hasOutputPath [] entries).contains key = true ↔
      ∃ entry ∈ entries, (mergeEntry hasOutputPath [] entry).contains key = true := by
  induction entries with
  | nil => exact iff_of_false Bool.false_ne_true (fun ⟨_, member, _⟩ => List.not_mem_nil member)
  | cons entry rest ih =>
      unfold KeyedList.contains at ih ⊢
      rw [mergeEntries, get?_mergeEntries, Option.isSome_or, Bool.or_eq_true, ih,
        List.exists_mem_cons_iff, or_comm]

/-- What entries say, one of them isSaid. -/
theorem exists_entry_of_mergeEntries {entries : List (String × Value)} {value : Value}
    (told : (mergeEntries hasOutputPath [] entries).get? key = some value) :
    ∃ entry ∈ entries, (mergeEntry hasOutputPath [] entry).get? key = some value := by
  induction entries with
  | nil => cases told
  | cons entry rest ih =>
      rw [mergeEntries, get?_mergeEntries, Option.or_eq_some_iff] at told
      rcases told with byRest | ⟨_, byEntry⟩
      · obtain ⟨other, member, said⟩ := ih byRest
        exact ⟨other, List.mem_cons_of_mem entry member, said⟩
      · exact ⟨entry, List.mem_cons_self, byEntry⟩

/-- In an ordered block an entry decides what the entries under greater keys leave unsaid. -/
theorem get?_flat_of_last {block : Fields} (ordered : block.Ordered) {name : String}
    {entered value : Value} (found : block.get? name = some entered)
    (told : (mergeEntry (block.contains "outputPath") [] (name, entered)).get? key = some value)
    (silent : ∀ other ∈ block, name < other.1 →
      (mergeEntry (block.contains "outputPath") [] other).get? key = none) :
    (flat block).get? key = some value := by
  obtain ⟨lead, rest, split⟩ := List.append_of_mem (KeyedList.mem_of_get? found)
  have later : ∀ other ∈ rest, name < other.1 := by
    rw [split] at ordered
    exact (List.pairwise_cons.mp (List.pairwise_append.mp ordered).2.1).1
  have silentRest : ∀ other ∈ rest,
      (mergeEntry (block.contains "outputPath") [] other).get? key = none := by
    intro other member
    apply silent other ?_ (later other member)
    rw [split]
    exact List.mem_append_right lead (List.mem_cons_of_mem _ member)
  have decided : (mergeEntries (block.contains "outputPath") []
      (lead ++ (name, entered) :: rest)).get? key = some value :=
    get?_mergeEntries_last told silentRest
  rw [← split] at decided
  exact decided

end Entries

/-! ### The output -/

private theorem get?_insert_empty {name key : String} {value kept : Value} :
    (KeyedList.insert [] name value).get? key = some kept ↔ name = key ∧ value = kept := by
  rw [KeyedList.get?_insert]
  by_cases same : name = key
  · rw [if_pos same, Option.some.injEq]
    exact (and_iff_right same).symm
  · rw [if_neg same]
    exact iff_of_false nofun fun both => same both.1

theorem exists_of_contains {block : Fields} {key : String}
    (contains : block.contains key = true) : ∃ value, (key, value) ∈ block := by
  obtain ⟨⟨name, value⟩, member, rfl⟩ :=
    List.mem_map.mp (KeyedList.contains_iff_mem_keys.mp contains)
  exact ⟨value, member⟩

private theorem contains_insert_self (name : String) (value : Value) :
    (KeyedList.insert [] name value).contains name = true := by
  unfold KeyedList.contains
  rw [KeyedList.get?_insert_self]
  rfl

theorem SaysOutput.contains_flat {block : Fields} {value : Value} (isSaid : SaysOutput block value) :
    (flat block).contains "outputPath" = true := by
  unfold flat mergeBlock
  induction isSaid with
  | outputPath member =>
      exact (contains_mergeEntries_iff _ _ _).mpr ⟨_, member, contains_insert_self _ _⟩
  | @path block value said =>
      -- the entry under `path` says nothing only where `outputPath` is there to say it
      cases hasOutputPath : block.contains "outputPath" with
      | true =>
          obtain ⟨other, member⟩ := exists_of_contains hasOutputPath
          exact (contains_mergeEntries_iff _ _ _).mpr ⟨_, member, contains_insert_self _ _⟩
      | false => exact (contains_mergeEntries_iff _ _ _).mpr ⟨_, said, contains_insert_self _ _⟩
  | nested inside _ ih => exact (contains_mergeEntries_iff _ _ _).mpr ⟨_, inside, ih⟩

theorem saysOutput_of_flat (block : Fields) {value : Value}
    (told : (flat block).get? "outputPath" = some value) : SaysOutput block value := by
  obtain ⟨⟨key, entered⟩, member, said⟩ := exists_entry_of_mergeEntries told
  rw [mergeEntry] at said
  split at said
  · cases said
  · split at said
    · next isConfig =>
        subst isConfig
        cases entered with
        | object inner =>
            have smaller : sizeOf inner < sizeOf block := by
              have entrySmaller := List.sizeOf_lt_of_mem member
              simp only [Prod.mk.sizeOf_spec, Value.object.sizeOf_spec] at entrySmaller
              omega
            exact .nested member (saysOutput_of_flat inner said)
        | null => exact absurd (get?_insert_empty.mp said).1 (by decide)
        | bool _ => exact absurd (get?_insert_empty.mp said).1 (by decide)
        | number _ => exact absurd (get?_insert_empty.mp said).1 (by decide)
        | string _ => exact absurd (get?_insert_empty.mp said).1 (by decide)
        | array _ => exact absurd (get?_insert_empty.mp said).1 (by decide)
    · split at said
      · next isPath =>
          subst isPath
          split at said
          · cases said
          · obtain ⟨-, rfl⟩ := get?_insert_empty.mp said
            exact .path member
      · obtain ⟨rfl, rfl⟩ := get?_insert_empty.mp said
        exact .outputPath member
termination_by sizeOf block

theorem not_contains_of_get? {block : Fields} {key : String} (absent : block.get? key = none) :
    block.contains key = false := by
  unfold KeyedList.contains
  rw [absent]
  rfl

theorem ne_of_get?_none {block : Fields} {key : String} (absent : block.get? key = none)
    {entry : String × Value} (member : entry ∈ block) : entry.1 ≠ key := by
  rintro rfl
  have isThere : block.contains entry.1 = true :=
    KeyedList.contains_iff_mem_keys.mpr (List.mem_map.mpr ⟨entry, member, rfl⟩)
  rw [not_contains_of_get? absent] at isThere
  cases isThere

theorem SetsOutput.flat {block : Fields} {value : Value}
    (wellFormed : (Value.object block).WellFormed) (sets : SetsOutput block value) :
    (flat block).get? "outputPath" = some value := by
  induction sets with
  | @outputPath block value found =>
      have spelled : block.contains "outputPath" = true := by
        unfold KeyedList.contains
        rw [found]
        rfl
      apply get?_flat_of_last wellFormed.ordered found (get?_insert_empty.mpr ⟨rfl, rfl⟩)
      intro other _ beyond
      exact get?_mergeEntry_other (String.ne_of_lt beyond).symm
        (String.ne_of_lt (String.lt_trans (by decide) beyond)).symm fun _ _ => spelled
  | @path block value noOutputPath found =>
      have notSpelled := not_contains_of_get? noOutputPath
      apply get?_flat_of_last wellFormed.ordered found
      · rw [notSpelled]
        exact get?_insert_empty.mpr ⟨rfl, rfl⟩
      · intro other member beyond
        exact get?_mergeEntry_other (ne_of_get?_none noOutputPath member)
          (String.ne_of_lt (String.lt_trans (by decide) beyond)).symm
          fun _ isPath => absurd isPath (String.ne_of_lt beyond).symm
  | @nested block inner value noOutputPath noPath inside _ ih =>
      apply get?_flat_of_last wellFormed.ordered inside (ih (wellFormed.get? inside))
      intro other member beyond
      exact get?_mergeEntry_other (ne_of_get?_none noOutputPath member)
        (String.ne_of_lt beyond).symm
        fun _ isPath => absurd isPath (ne_of_get?_none noPath member)

theorem SaysOutput.exists_sets {block : Fields} {value : Value}
    (wellFormed : (Value.object block).WellFormed) (isSaid : SaysOutput block value) :
    ∃ kept, SetsOutput block kept := by
  induction isSaid with
  | outputPath said => exact ⟨_, .outputPath (wellFormed.ordered.get?_of_mem said)⟩
  | @path block value said =>
      cases direct : block.get? "outputPath" with
      | some kept => exact ⟨kept, .outputPath direct⟩
      | none => exact ⟨value, .path direct (wellFormed.ordered.get?_of_mem said)⟩
  | @nested block inner value inside _ ih =>
      have found := wellFormed.ordered.get?_of_mem inside
      obtain ⟨kept, sets⟩ := ih (wellFormed.get? found)
      cases direct : block.get? "outputPath" with
      | some own => exact ⟨own, .outputPath direct⟩
      | none =>
          cases older : block.get? "path" with
          | some own => exact ⟨own, .path direct older⟩
          | none => exact ⟨kept, .nested direct older found sets⟩

theorem wellFormed_layers {id : String} {frontmatter : Value} {config : ProjectConfig}
    (isWellFormed : frontmatter.WellFormed) (configWellFormed : config.toValue.WellFormed)
    {block : Fields} (member : block ∈ layers id frontmatter config) :
    (Value.object block).WellFormed := by
  obtain ⟨layer, inside, isBlock⟩ := List.mem_filterMap.mp member
  obtain ⟨value, isValue, isObject⟩ := Option.bind_eq_some_iff.mp isBlock
  have formed : value.WellFormed := by
    subst isValue
    simp only [List.mem_cons, List.not_mem_nil, or_false] at inside
    rcases inside with found | found | found | found
    · exact configWellFormed.at? found.symm
    · exact isWellFormed.at? found.symm
    · exact isWellFormed.at? found.symm
    · exact isWellFormed.get? found.symm
  cases value with
  | object fields =>
      cases isObject
      exact formed
  | _ => cases isObject

/-! ### The layers together -/

/-- The configuration of a destination is the union of its layers, each flattened by itself, with
the more specific ones over the others. So the most specific layer that says something of the output,
in either spelling and however deep, decides it: by one of the values that it says, and where fields
are ordered by the one that counts. What is left out of a block is left out of the whole. -/
theorem resolve_union_of_layers (id : String) (frontmatter : Value) (config : ProjectConfig) :
    let resolved := resolve id frontmatter config
    (∀ key, resolved.get? key =
      [frontmatter.get? id, frontmatter.at? ["providers", id],
       frontmatter.at? ["destinations", id], config.providerBlock? id].findSome? fun layer =>
        (layer.bind Value.asObject?).bind fun block => (flat block).get? key) ∧
    (∀ lower block higher, layers id frontmatter config = lower ++ block :: higher →
      (∃ said, SaysOutput block said) → (∀ other ∈ higher, ∀ said, ¬ SaysOutput other said) →
      ∃ value, SaysOutput block value ∧
        (frontmatter.WellFormed → config.toValue.WellFormed → SetsOutput block value) ∧
        (flat block).get? "outputPath" = some value ∧
        resolved.get? "outputPath" = some value ∧
        resolved.outputOverride? = value.asString?) ∧
    IsFlat resolved.fields := by
  intro resolved
  have decided : ∀ key, resolved.get? key =
      (layers id frontmatter config).reverse.findSome? fun block => (flat block).get? key := by
    intro key
    exact (get?_foldl_mergeBlock (layers id frontmatter config) [] key).trans Option.or_none
  refine ⟨?union, ?output, IsFlat.empty.foldl_mergeBlock _⟩
  case union =>
    intro key
    rw [decided, layers, ← List.filterMap_reverse, ← List.head?_filterMap, List.filterMap_filterMap,
      List.head?_filterMap]
    rfl
  case output =>
    intro lower block higher split ⟨said, isSaid⟩ unsaid
    obtain ⟨value, flatValue⟩ := Option.isSome_iff_exists.mp isSaid.contains_flat
    have silent : (higher.reverse.findSome? fun other => (flat other).get? "outputPath") = none := by
      apply List.findSome?_eq_none_iff.mpr
      intro other member
      rw [Option.eq_none_iff_forall_ne_some]
      exact fun kept told =>
        unsaid other (List.mem_reverse.mp member) kept (saysOutput_of_flat other told)
    have found : resolved.get? "outputPath" = some value := by
      rw [decided, split, List.reverse_append, List.reverse_cons, List.append_assoc,
        List.findSome?_append, silent, Option.none_or, List.singleton_append, List.findSome?_cons,
        flatValue]
    refine ⟨value, saysOutput_of_flat block flatValue, ?counts, flatValue, found, ?_⟩
    case counts =>
      intro isWellFormed configWellFormed
      have member : block ∈ layers id frontmatter config := by
        rw [split]
        exact List.mem_append_right lower List.mem_cons_self
      have blockFormed := wellFormed_layers isWellFormed configWellFormed member
      obtain ⟨kept, sets⟩ := isSaid.exists_sets blockFormed
      have same : kept = value :=
        Option.some.inj ((sets.flat blockFormed).symm.trans flatValue)
      rw [← same]
      exact sets
    · unfold outputOverride? string?
      rw [found]
      rfl

/-- The older spelling in a nested block of the document beats the newer one of the project. -/
theorem resolve_nested_path_over_project :
    let frontmatter : Value :=
      .object [("destinations", .object [("cursor", .object
        [("config", .object [("path", .string "notes.mdc")])])])]
    let config : ProjectConfig :=
      { fields := [("providers", .object [("cursor", .object
          [("outputPath", .string "project.mdc")])])] }
    let block : Fields := [("config", .object [("path", .string "notes.mdc")])]
    layers "cursor" frontmatter config = [[("outputPath", .string "project.mdc")], block] ∧
      (∀ value, SaysOutput block value ↔ value = .string "notes.mdc") ∧
      (resolve "cursor" frontmatter config).outputOverride? = some "notes.mdc" := by
  intro frontmatter config block
  have isSaid : SaysOutput block (.string "notes.mdc") :=
    .nested List.mem_cons_self (.path List.mem_cons_self)
  have otherKey : ∀ {name key : String} {value entered : Value}, name ≠ key →
      (name, value) ∉ [(key, entered)] := by
    intro name key value entered other member
    exact other (Prod.mk.inj (List.mem_singleton.mp member)).1
  have onlySaid : ∀ value, SaysOutput block value → value = .string "notes.mdc" := by
    intro value said
    cases said with
    | outputPath member => exact absurd member (otherKey (by decide))
    | path member => exact absurd member (otherKey (by decide))
    | nested inside said =>
        cases List.mem_singleton.mp inside
        cases said with
        | outputPath member => exact absurd member (otherKey (by decide))
        | path member => exact (Prod.mk.inj (List.mem_singleton.mp member)).2
        | nested inside _ => exact absurd inside (otherKey (by decide))
  refine ⟨rfl, fun value => ⟨onlySaid value, fun same => same ▸ isSaid⟩, ?_⟩
  obtain ⟨value, saidValue, -, -, -, override⟩ :=
    (resolve_union_of_layers "cursor" frontmatter config).2.1 [[("outputPath", .string "project.mdc")]]
      block [] rfl ⟨_, isSaid⟩ (fun _ member => absurd member List.not_mem_nil)
  rw [override, onlySaid value saidValue]
  rfl

end RuleCompiler.DestinationConfig
