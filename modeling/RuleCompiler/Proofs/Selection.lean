import RuleCompiler.Proofs.KeyedList
import RuleCompiler.Selection

/-!
Which destinations a document is for. What a value says, which place says something first and what a
document lists are relations over values of any shape; the chosen destinations are exactly the
registered ones that these relations admit.
-/

namespace RuleCompiler

/-- What a value says at a place. A flag is `true` or `false`, alone or as `enabled` of a block; a
block without one enables, save the empty one at the top of the frontmatter. -/
inductive Setting.Signals : SettingPlace → Value → Bool → Prop
  | flag (place : SettingPlace) (flag : Bool) : Signals place (.bool flag) flag
  | block (place : SettingPlace) {fields : Fields} {flag : Bool} :
      KeyedList.get? fields "enabled" = some (.bool flag) → Signals place (.object fields) flag
  | options {place : SettingPlace} {fields : Fields} :
      (∀ flag, KeyedList.get? fields "enabled" ≠ some (.bool flag)) →
      place = .provider ∨ fields ≠ [] → Signals place (.object fields) true

/-- The first of the places that signals anything signals `flag`. -/
inductive Setting.FirstSignals : List (SettingPlace × Option Value) → Bool → Prop
  | here {place : SettingPlace} {value : Value} {flag : Bool}
      {rest : List (SettingPlace × Option Value)} :
      Signals place value flag → FirstSignals ((place, some value) :: rest) flag
  | absent {place : SettingPlace} {flag : Bool} {rest : List (SettingPlace × Option Value)} :
      FirstSignals rest flag → FirstSignals ((place, none) :: rest) flag
  | silent {place : SettingPlace} {value : Value} {flag : Bool}
      {rest : List (SettingPlace × Option Value)} :
      (∀ any, ¬ Signals place value any) → FirstSignals rest flag →
      FirstSignals ((place, some value) :: rest) flag

namespace Selection

/-- The frontmatter lists these items as its destinations. -/
inductive Lists (frontmatter : Value) (items : List Value) : Prop
  | array : frontmatter.get? "destinations" = some (.array items) → Lists frontmatter items
  | included (fields : Fields) : frontmatter.get? "destinations" = some (.object fields) →
      KeyedList.get? fields "include" = some (.array items) → Lists frontmatter items

/-- The destinations are the keys of these fields, one of which is registered. -/
structure Keyed (frontmatter : Value) (registered : List String) (fields : Fields) : Prop where
  object : frontmatter.get? "destinations" = some (.object fields)
  registered : ∃ id ∈ registered, id ∈ KeyedList.keys fields

/-- No place disables a destination before another enables it. -/
def NotDisabled (frontmatter : Value) (config : ProjectConfig) (id : String) : Prop :=
  ¬ Setting.FirstSignals
    [(.topLevel, frontmatter.get? id),
     (.provider, frontmatter.at? ["providers", id]),
     (.provider, config.providerBlock? id)] false

/-- The document admits a destination: by a list, or else by a key, or else by its settings. -/
inductive Admits (frontmatter : Value) (config : ProjectConfig) (registered : List String)
    (id : String) : Prop
  | listed (items : List Value) : Lists frontmatter items → .string id ∈ items →
      Admits frontmatter config registered id
  | key (fields : Fields) : (∀ items, ¬ Lists frontmatter items) →
      Keyed frontmatter registered fields → id ∈ KeyedList.keys fields →
      Admits frontmatter config registered id
  | setting : (∀ items, ¬ Lists frontmatter items) →
      (∀ fields, ¬ Keyed frontmatter registered fields) → NotDisabled frontmatter config id →
      Admits frontmatter config registered id

end Selection

theorem Value.bind_asBool?_eq_some_iff {value : Option Value} {flag : Bool} :
    value.bind Value.asBool? = some flag ↔ value = some (.bool flag) := by
  constructor
  · intro isFlag
    obtain ⟨inner, rfl, isBool⟩ := Option.bind_eq_some_iff.mp isFlag
    cases inner with
    | bool other =>
        rw [Option.some.inj isBool]
    | null => cases isBool
    | number _ => cases isBool
    | string _ => cases isBool
    | array _ => cases isBool
    | object _ => cases isBool
  · rintro rfl
    rfl

namespace Setting

variable {place : SettingPlace} {fields : Fields} {flag : Bool}

theorem signals_bool_iff {value : Bool} : Signals place (.bool value) flag ↔ value = flag := by
  constructor
  · intro signals
    cases signals with
    | flag => rfl
  · rintro rfl
    exact Signals.flag place value

theorem signals_flagged_iff {value : Bool}
    (carried : KeyedList.get? fields "enabled" = some (.bool value)) :
    Signals place (.object fields) flag ↔ value = flag := by
  constructor
  · intro signals
    cases signals with
    | block flagged =>
        rw [carried] at flagged
        exact Value.bool.inj (Option.some.inj flagged)
    | options unflagged _ =>
        exact absurd carried (unflagged value)
  · rintro rfl
    exact Signals.block place carried

theorem signals_unflagged_iff
    (unflagged : ∀ value, KeyedList.get? fields "enabled" ≠ some (.bool value)) :
    Signals place (.object fields) flag ↔ (place = .provider ∨ fields ≠ []) ∧ true = flag := by
  constructor
  · intro signals
    cases signals with
    | block flagged => exact absurd flagged (unflagged flag)
    | options _ speaks => exact ⟨speaks, rfl⟩
  · rintro ⟨speaks, rfl⟩
    exact Signals.options unflagged speaks

theorem decode_object_of_flag {value : Bool}
    (carried : KeyedList.get? fields "enabled" = some (.bool value)) :
    (decode place (.object fields)).map isEnabled = some value := by
  unfold decode
  dsimp only
  rw [carried]
  cases value with
  | false => rfl
  | true => rfl

theorem decode_object_of_no_flag
    (unflagged : ∀ value, KeyedList.get? fields "enabled" ≠ some (.bool value)) :
    (decode place (.object fields)).map isEnabled =
      if place = .provider ∨ fields ≠ [] then some true else none := by
  have noFlag : (KeyedList.get? fields "enabled").bind Value.asBool? = none := by
    rw [Option.eq_none_iff_forall_ne_some]
    intro value isFlag
    exact unflagged value (Value.bind_asBool?_eq_some_iff.mp isFlag)
  have speaks_iff : (decide (place = .provider) || !fields.isEmpty) = true ↔
      place = .provider ∨ fields ≠ [] := by
    rw [Bool.or_eq_true, decide_eq_true_iff, Bool.not_eq_true', List.isEmpty_eq_false_iff]
  unfold decode
  dsimp only
  rw [noFlag]
  dsimp only
  by_cases speaks : place = .provider ∨ fields ≠ []
  · rw [if_pos speaks, if_pos (speaks_iff.mpr speaks)]
    rfl
  · rw [if_neg speaks, if_neg fun holds => speaks (speaks_iff.mp holds)]
    rfl

theorem decode_iff_signals {value : Value} :
    (decode place value).map isEnabled = some flag ↔ Signals place value flag := by
  cases value with
  | bool value =>
      rw [signals_bool_iff]
      cases value with
      | false => exact Option.some_inj
      | true => exact Option.some_inj
  | object fields =>
      cases carried : (KeyedList.get? fields "enabled").bind Value.asBool? with
      | some value =>
          have isFlag := Value.bind_asBool?_eq_some_iff.mp carried
          rw [decode_object_of_flag isFlag, signals_flagged_iff isFlag, Option.some_inj]
      | none =>
          have unflagged : ∀ value, KeyedList.get? fields "enabled" ≠ some (.bool value) := by
            intro value isFlag
            rw [isFlag] at carried
            cases carried
          rw [decode_object_of_no_flag unflagged, signals_unflagged_iff unflagged]
          by_cases speaks : place = .provider ∨ fields ≠ []
          · rw [if_pos speaks, Option.some_inj, and_iff_right speaks]
          · rw [if_neg speaks]
            exact iff_of_false nofun fun both => speaks both.1
  | null | number _ | string _ | array _ => exact iff_of_false nofun nofun

theorem findSome?_decode_iff (places : List (SettingPlace × Option Value)) :
    (places.findSome? fun (place, value) => value.bind (decode place)).map isEnabled = some flag ↔
      FirstSignals places flag := by
  induction places with
  | nil =>
      exact iff_of_false nofun nofun
  | cons head rest ih =>
      obtain ⟨place, value⟩ := head
      rw [List.findSome?_cons]
      cases value with
      | none =>
          constructor
          · intro later
            exact FirstSignals.absent (ih.mp later)
          · intro signals
            cases signals with
            | absent later => exact ih.mpr later
      | some value =>
          cases decoded : decode place value with
          | none =>
              have silent : ∀ any, ¬ Signals place value any := by
                intro any signals
                have signal := decode_iff_signals.mpr signals
                rw [decoded] at signal
                cases signal
              dsimp only [Option.bind_some]
              rw [decoded]
              constructor
              · intro later
                exact FirstSignals.silent silent (ih.mp later)
              · intro signals
                cases signals with
                | here signals => exact absurd signals (silent flag)
                | silent _ later => exact ih.mpr later
          | some setting =>
              have signals : ∀ any, Signals place value any ↔ setting.isEnabled = any := by
                intro any
                rw [← decode_iff_signals, decoded, Option.map_some, Option.some_inj]
              dsimp only [Option.bind_some]
              rw [decoded]
              dsimp only [Option.map_some]
              rw [Option.some_inj, ← signals flag]
              constructor
              · exact FirstSignals.here
              · intro first
                cases first with
                | here here => exact here
                | silent none _ => exact absurd ((signals _).mpr rfl) (none setting.isEnabled)

end Setting

namespace Selection

theorem isExcluded_iff {frontmatter : Value} :
    isExcluded frontmatter = true ↔
      frontmatter.at? ["rule", "disabled"] = some (.bool true) := by
  rw [← Value.bind_asBool?_eq_some_iff]
  unfold isExcluded
  cases (frontmatter.at? ["rule", "disabled"]).bind Value.asBool? with
  | none => decide
  | some flag => exact Option.some_inj.symm

theorem isEnabled_iff_notDisabled {frontmatter : Value} {config : ProjectConfig} {id : String} :
    isEnabled frontmatter config id = true ↔ NotDisabled frontmatter config id := by
  unfold NotDisabled
  rw [← Setting.findSome?_decode_iff]
  change _ ↔ ¬ (Setting.resolve id frontmatter config).map Setting.isEnabled = some false
  unfold isEnabled
  cases Setting.resolve id frontmatter config with
  | none => decide
  | some setting => rw [Option.map_some, Option.some_inj, Bool.not_eq_false]

theorem string_mem_iff {items : List Value} {id : String} :
    (Value.strings items).contains id = true ↔ .string id ∈ items := by
  unfold Value.strings
  rw [List.contains_iff_mem, List.mem_filterMap]
  constructor
  · rintro ⟨item, member, isString⟩
    cases item with
    | string text =>
        rw [Option.some.inj isString] at member
        exact member
    | null => cases isString
    | bool _ => cases isString
    | number _ => cases isString
    | array _ => cases isString
    | object _ => cases isString
  · intro member
    exact ⟨.string id, member, rfl⟩

theorem listed?_of_lists {frontmatter : Value} {items : List Value}
    (lists : Lists frontmatter items) (registered : List String) :
    listed? frontmatter registered = some (registered.filter (Value.strings items).contains) := by
  unfold listed?
  cases lists with
  | array isArray => rw [isArray]
  | included fields isObject isArray =>
      rw [isObject]
      dsimp only
      rw [isArray]

theorem listed?_of_keyed {frontmatter : Value} {registered : List String} {fields : Fields}
    (unlisted : ∀ items, ¬ Lists frontmatter items) (keyed : Keyed frontmatter registered fields) :
    listed? frontmatter registered = some (registered.filter (KeyedList.contains fields)) := by
  obtain ⟨known, inside, isKey⟩ := keyed.registered
  have someKey : registered.any (KeyedList.contains fields) = true :=
    List.any_eq_true.mpr ⟨known, inside, KeyedList.contains_iff_mem_keys.mpr isKey⟩
  unfold listed?
  rw [keyed.object]
  dsimp only
  split
  · next items isArray => exact absurd (Lists.included fields keyed.object isArray) (unlisted items)
  · rw [if_pos someKey]

theorem listed?_of_neither {frontmatter : Value} {registered : List String}
    (unlisted : ∀ items, ¬ Lists frontmatter items)
    (unkeyed : ∀ fields, ¬ Keyed frontmatter registered fields) :
    listed? frontmatter registered = none := by
  unfold listed?
  split
  · next items isArray => exact absurd (Lists.array isArray) (unlisted items)
  · next fields isObject =>
      split
      · next items isArray => exact absurd (Lists.included fields isObject isArray) (unlisted items)
      · apply if_neg
        intro someKey
        obtain ⟨known, inside, contains⟩ := List.any_eq_true.mp someKey
        have isKey := KeyedList.contains_iff_mem_keys.mp contains
        exact unkeyed fields ⟨isObject, known, inside, isKey⟩
  · rfl

section Chosen

variable {frontmatter : Value} {config : ProjectConfig} {registered : List String} {id : String}

theorem select_of_listed? (included : ¬ isExcluded frontmatter = true) :
    select frontmatter config registered =
      (listed? frontmatter registered).getD
        (registered.filter (isEnabled frontmatter config)) := by
  unfold select
  rw [if_neg included]
  cases listed? frontmatter registered with
  | none => rfl
  | some chosen => rfl

theorem mem_select_of_admits (included : ¬ isExcluded frontmatter = true)
    (known : id ∈ registered) (admits : Admits frontmatter config registered id) :
    id ∈ select frontmatter config registered := by
  rw [select_of_listed? included]
  cases admits with
  | listed items lists member =>
      rw [listed?_of_lists lists]
      exact List.mem_filter.mpr ⟨known, string_mem_iff.mpr member⟩
  | key fields unlisted keyed isKey =>
      rw [listed?_of_keyed unlisted keyed]
      exact List.mem_filter.mpr ⟨known, KeyedList.contains_iff_mem_keys.mpr isKey⟩
  | setting unlisted unkeyed notDisabled =>
      rw [listed?_of_neither unlisted unkeyed]
      exact List.mem_filter.mpr ⟨known, isEnabled_iff_notDisabled.mpr notDisabled⟩

theorem admits_of_mem_select (included : ¬ isExcluded frontmatter = true)
    (member : id ∈ select frontmatter config registered) :
    Admits frontmatter config registered id := by
  rw [select_of_listed? included] at member
  by_cases lists : ∃ items, Lists frontmatter items
  · obtain ⟨items, lists⟩ := lists
    rw [listed?_of_lists lists] at member
    exact Admits.listed items lists (string_mem_iff.mp (List.mem_filter.mp member).2)
  · have unlisted := not_exists.mp lists
    by_cases keyed : ∃ fields, Keyed frontmatter registered fields
    · obtain ⟨fields, keyed⟩ := keyed
      rw [listed?_of_keyed unlisted keyed] at member
      have isKey := KeyedList.contains_iff_mem_keys.mp (List.mem_filter.mp member).2
      exact Admits.key fields unlisted keyed isKey
    · have unkeyed := not_exists.mp keyed
      rw [listed?_of_neither unlisted unkeyed] at member
      have notDisabled := isEnabled_iff_notDisabled.mp (List.mem_filter.mp member).2
      exact Admits.setting unlisted unkeyed notDisabled

end Chosen

theorem select_sublist (frontmatter : Value) (config : ProjectConfig) (registered : List String) :
    (select frontmatter config registered).Sublist registered := by
  by_cases excluded : isExcluded frontmatter = true
  · unfold select
    rw [if_pos excluded]
    exact List.nil_sublist registered
  · rw [select_of_listed? excluded]
    unfold listed?
    repeat' split
    all_goals exact List.filter_sublist

/-- The chosen destinations are the registered ones that the document admits, in the order of
registration, unless the document says that it is no rule. -/
theorem select_admits (frontmatter : Value) (config : ProjectConfig) {registered : List String}
    (distinct : registered.Nodup) :
    (select frontmatter config registered).Sublist registered ∧
    (select frontmatter config registered).Nodup ∧
    ∀ id, id ∈ select frontmatter config registered ↔
      id ∈ registered ∧
      frontmatter.at? ["rule", "disabled"] ≠ some (.bool true) ∧
      Admits frontmatter config registered id := by
  have sublist := select_sublist frontmatter config registered
  refine ⟨sublist, sublist.nodup distinct, ?_⟩
  intro id
  rw [ne_eq, ← isExcluded_iff]
  constructor
  · intro member
    have included : ¬ isExcluded frontmatter = true := by
      intro excluded
      unfold select at member
      rw [if_pos excluded] at member
      cases member
    exact ⟨sublist.subset member, included, admits_of_mem_select included member⟩
  · rintro ⟨known, included, admits⟩
    exact mem_select_of_admits included known admits

theorem select_listed_cline :
    ["cursor", "cline"].Nodup ∧
      "cline" ∈ select (.object [("destinations", .array [.string "cline"])]) {}
        ["cursor", "cline"] := by
  have distinct : ["cursor", "cline"].Nodup := by decide
  refine ⟨distinct, ?_⟩
  apply ((select_admits _ _ distinct).2.2 "cline").mpr
  refine ⟨by decide, by decide, ?_⟩
  exact Admits.listed [.string "cline"] (Lists.array (by decide)) (by decide)

end Selection

end RuleCompiler
