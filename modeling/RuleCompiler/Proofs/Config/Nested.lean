import RuleCompiler.Proofs.Config.Destination

/-!
A key beside a nested block and inside it. The entries of a block are merged in the order of their
keys, and the nested block is merged where its own key stands. So a key that comes after `config`
keeps its direct value, and before it a key takes the value of the nested block.
-/

namespace RuleCompiler.DestinationConfig

/-- A key that is merged as it is. -/
structure IsPlainKey (key : String) : Prop where
  notEnabled : key ≠ "enabled"
  notConfig : key ≠ "config"
  notPath : key ≠ "path"

theorem get?_mergeEntry_self {hasOutputPath : Bool} {key : String} (plain : IsPlainKey key)
    (value : Value) : (mergeEntry hasOutputPath [] (key, value)).get? key = some value := by
  rw [mergeEntry, if_neg plain.notEnabled, if_neg plain.notConfig, if_neg plain.notPath]
  exact KeyedList.get?_insert_self [] key value

theorem get?_flat_isSome {block : Fields} {key : String} (plain : IsPlainKey key)
    (contains : block.contains key = true) : ∃ value, (flat block).get? key = some value := by
  obtain ⟨value, member⟩ := exists_of_contains contains
  apply Option.isSome_iff_exists.mp
  apply (contains_mergeEntries_iff (block.contains "outputPath") block key).mpr
  refine ⟨_, member, ?_⟩
  unfold KeyedList.contains
  rw [get?_mergeEntry_self plain]
  rfl

/-- In an ordered block with a nested one, a key that is in both has its direct value if it comes
after `config`, and else what the nested block says by itself. -/
theorem get?_flat_of_nested {block inner : Fields} {key : String} {direct nested : Value}
    (ordered : block.Ordered) (plain : IsPlainKey key)
    (isDirect : block.get? key = some direct)
    (hasNested : block.get? "config" = some (.object inner))
    (told : (flat inner).get? key = some nested) :
    (flat block).get? key = some (if "config" < key then direct else nested) := by
  have spelled : key = "outputPath" → block.contains "outputPath" = true := by
    rintro rfl
    unfold KeyedList.contains
    rw [isDirect]
    rfl
  by_cases after : "config" < key
  · rw [if_pos after]
    apply get?_flat_of_last ordered isDirect (get?_mergeEntry_self plain direct)
    intro other _ beyond
    exact get?_mergeEntry_other (String.ne_of_lt beyond).symm
      (String.ne_of_lt (String.lt_trans after beyond)).symm fun isOutput _ => spelled isOutput
  · rw [if_neg after]
    have before : key < "config" := Std.lt_of_le_of_ne (String.not_lt.mp after) plain.notConfig
    apply get?_flat_of_last ordered hasNested told
    intro other _ beyond
    exact get?_mergeEntry_other (String.ne_of_lt (String.lt_trans before beyond)).symm
      (String.ne_of_lt beyond).symm fun isOutput _ => spelled isOutput

/-- Where a block with a nested one is the only layer, a key that is in both is decided by its
spelling: after `config` the direct value wins, and before it the nested one. -/
theorem resolve_nested_by_spelling (id : String) (frontmatter : Value) (config : ProjectConfig)
    (block inner : Fields) (key : String) (direct : Value)
    (alone : layers id frontmatter config = [block]) (ordered : block.Ordered)
    (hasNested : block.get? "config" = some (.object inner)) (plain : IsPlainKey key)
    (isDirect : block.get? key = some direct) (isNested : inner.contains key = true) :
    ∃ nested, (flat inner).get? key = some nested ∧
      (resolve id frontmatter config).get? key =
        some (if "config" < key then direct else nested) := by
  obtain ⟨nested, told⟩ := get?_flat_isSome plain isNested
  refine ⟨nested, told, ?_⟩
  have whole : (resolve id frontmatter config).fields = flat block := by
    unfold resolve
    rw [alone]
    rfl
  unfold get?
  rw [whole]
  exact get?_flat_of_nested ordered plain isDirect hasNested told

/-- A nested block that contradicts what stands beside it on both sides of `config`. -/
def contradicting : Fields :=
  [("alwaysApply", .bool false), ("format", .string "md")]

def contradicted : Fields :=
  [("alwaysApply", .bool true), ("config", .object contradicting), ("format", .string "mdc")]

theorem contradicted_by_spelling :
    (∃ nested, (flat contradicting).get? "alwaysApply" = some nested ∧
      (resolve "cursor" (.object [("cursor", .object contradicted)]) {}).get? "alwaysApply" =
        some (if "config" < "alwaysApply" then .bool true else nested)) ∧
    ∃ nested, (flat contradicting).get? "format" = some nested ∧
      (resolve "cursor" (.object [("cursor", .object contradicted)]) {}).get? "format" =
        some (if "config" < "format" then .string "mdc" else nested) := by
  have ordered : contradicted.Ordered := by
    simp only [contradicted, KeyedList.Ordered, List.pairwise_cons]
    decide
  exact ⟨resolve_nested_by_spelling "cursor" (.object [("cursor", .object contradicted)]) {}
      contradicted contradicting "alwaysApply" (.bool true) rfl ordered rfl
      ⟨by decide, by decide, by decide⟩ rfl rfl,
    resolve_nested_by_spelling "cursor" (.object [("cursor", .object contradicted)]) {}
      contradicted contradicting "format" (.string "mdc") rfl ordered rfl
      ⟨by decide, by decide, by decide⟩ rfl rfl⟩

/-- Beside a nested block that has both, `format` keeps its direct value and `alwaysApply` loses
it. -/
theorem nested_alwaysApply_wins :
    layers "cursor" (.object [("cursor", .object contradicted)]) {} = [contradicted] ∧
    contradicting.get? "alwaysApply" = some (.bool false) ∧
    contradicted.get? "alwaysApply" = some (.bool true) ∧
    (resolve "cursor" (.object [("cursor", .object contradicted)]) {}).get? "alwaysApply" =
      some (.bool false) ∧
    (resolve "cursor" (.object [("cursor", .object contradicted)]) {}).get? "format" =
      some (.string "mdc") := by
  decide

end RuleCompiler.DestinationConfig
