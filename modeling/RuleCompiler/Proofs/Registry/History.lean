import RuleCompiler.Proofs.FirstOccurrence
import RuleCompiler.Proofs.Registry

/-!
What a registry remembers of the calls that built it. The calls are kept with their answers: those
answered without a finding settle the active providers, the others the refused ones. An id keeps the
place of its first accepted provider and gives the last one, and a refusal changes no active
provider.
-/

namespace RuleCompiler

/-- Both versions can be read, and their major numbers are equal. -/
def Version.SameMajor (expected declared : String) : Prop :=
  ∃ major, Version.major? expected = some major ∧ Version.major? declared = some major

theorem Handshake.incompatibilities_eq_nil_iff (expected : String) (handshake : Handshake) :
    Handshake.incompatibilities expected handshake = [] ↔
      Version.SameMajor expected handshake.sdkVersion := by
  unfold incompatibilities Version.SameMajor
  dsimp only
  cases Version.major? expected with
  | none =>
      constructor
      · intro impossible
        cases impossible
      · rintro ⟨major, impossible, _⟩
        cases impossible
  | some expectedMajor =>
      cases Version.major? handshake.sdkVersion with
      | none =>
          constructor
          · intro impossible
            cases impossible
          · rintro ⟨major, _, impossible⟩
            cases impossible
      | some declaredMajor =>
          dsimp only
          by_cases same : expectedMajor = declaredMajor
          · subst same
            rw [if_pos rfl]
            exact iff_of_true rfl ⟨expectedMajor, rfl, rfl⟩
          · rw [if_neg same]
            constructor
            · intro impossible
              cases impossible
            · rintro ⟨major, isExpected, isDeclared⟩
              exact absurd ((Option.some.inj isExpected).trans (Option.some.inj isDeclared).symm)
                same

namespace Registry

/-- A provider that was handed in, with the findings against it. -/
structure Call where
  provider : Provider
  findings : List Diagnostic

/-- The providers that were accepted, in the order of the calls. -/
def accepted (calls : List Call) : List Provider :=
  (calls.filter fun call => call.findings.isEmpty).map Call.provider

/-- The providers that were refused, in the order of the calls. -/
def refused (calls : List Call) : List RejectedProvider :=
  (calls.filter fun call => !call.findings.isEmpty).map fun call =>
    { handshake := call.provider.handshake, findings := call.findings }

/-- Register providers one after the other: the registry at the end, and the calls with their
answers. -/
def registerAll (registry : Registry) : (providers : List Provider) → Registry × List Call
  | [] => (registry, [])
  | provider :: rest =>
      let answered := registry.register provider
      let onward := registerAll answered.1 rest
      (onward.1, { provider, findings := answered.2 } :: onward.2)

/-! ### One call -/

theorem register_of_findings {registry : Registry} {provider : Provider}
    (found : Handshake.incompatibilities registry.expectedSdk provider.handshake ≠ []) :
    registry.register provider =
      ({ registry with
          rejected := registry.rejected ++
            [{ handshake := provider.handshake
               findings :=
                 Handshake.incompatibilities registry.expectedSdk provider.handshake }] },
        Handshake.incompatibilities registry.expectedSdk provider.handshake) := by
  unfold register
  cases findings : Handshake.incompatibilities registry.expectedSdk provider.handshake with
  | nil => exact absurd findings found
  | cons finding others => rfl

theorem register_of_compatible {registry : Registry} {provider : Provider}
    (compatible : Handshake.incompatibilities registry.expectedSdk provider.handshake = []) :
    registry.register provider =
      ({ registry with active := enlist provider registry.active }, []) := by
  unfold register
  rw [compatible]

theorem findings_of_register (registry : Registry) (provider : Provider) :
    (registry.register provider).2 =
      Handshake.incompatibilities registry.expectedSdk provider.handshake := by
  by_cases compatible :
      Handshake.incompatibilities registry.expectedSdk provider.handshake = []
  · rw [register_of_compatible compatible, compatible]
  · rw [register_of_findings compatible]

/-- A call that fails leaves the active providers as they were. -/
theorem active_of_refusal {registry : Registry} {provider : Provider}
    (refusal : (registry.register provider).2 ≠ []) :
    (registry.register provider).1.active = registry.active := by
  rw [findings_of_register] at refusal
  rw [register_of_findings refusal]

/-! ### Active providers -/

theorem ids_enlist_of_mem {provider : Provider} {active : List Provider}
    (member : provider.id ∈ active.map Provider.id) :
    (enlist provider active).map Provider.id = active.map Provider.id := by
  induction active with
  | nil => cases member
  | cons other rest ih =>
      unfold enlist
      by_cases same : other.id = provider.id
      · rw [if_pos same, List.map_cons, List.map_cons, same]
      · have inRest : provider.id ∈ rest.map Provider.id :=
          (List.mem_cons.mp member).resolve_left fun equal => same equal.symm
        rw [if_neg same, List.map_cons, List.map_cons, ih inRest]

theorem ids_enlist_of_not_mem {provider : Provider} {active : List Provider}
    (fresh : provider.id ∉ active.map Provider.id) :
    (enlist provider active).map Provider.id = active.map Provider.id ++ [provider.id] := by
  induction active with
  | nil => rfl
  | cons other rest ih =>
      rw [List.map_cons, List.mem_cons, not_or] at fresh
      unfold enlist
      rw [if_neg fun same => fresh.1 same.symm, List.map_cons, ih fresh.2]
      rfl

theorem find?_cons_named (provider : Provider) (others : List Provider) (id : String) :
    (provider :: others).find? (fun other => other.id == id) =
      if provider.id = id then some provider else others.find? fun other => other.id == id := by
  rw [List.find?_cons]
  by_cases isId : provider.id = id
  · rw [if_pos isId, isId, beq_self_eq_true]
  · rw [if_neg isId, beq_false_of_ne isId]

theorem find?_enlist (provider : Provider) (active : List Provider) (id : String) :
    (enlist provider active).find? (fun other => other.id == id) =
      if provider.id = id then some provider else active.find? fun other => other.id == id := by
  induction active with
  | nil => exact find?_cons_named provider [] id
  | cons other rest ih =>
      unfold enlist
      by_cases same : other.id = provider.id
      · rw [if_pos same, find?_cons_named, find?_cons_named, same]
        by_cases isId : provider.id = id
        · rw [if_pos isId, if_pos isId]
        · rw [if_neg isId, if_neg isId, if_neg isId]
      · rw [if_neg same, find?_cons_named, find?_cons_named, ih]
        by_cases otherIsId : other.id = id
        · have differs : ¬ provider.id = id := fun isId => same (otherIsId.trans isId.symm)
          rw [if_pos otherIsId, if_neg differs, if_pos otherIsId]
        · rw [if_neg otherIsId, if_neg otherIsId]

/-! ### Runs of calls -/

theorem accepted_concat_accepted (calls : List Call) (provider : Provider) :
    accepted (calls ++ [Call.mk provider []]) = accepted calls ++ [provider] := by
  unfold accepted
  rw [List.filter_append, List.map_append]
  rfl

theorem refused_concat_accepted (calls : List Call) (provider : Provider) :
    refused (calls ++ [Call.mk provider []]) = refused calls := by
  unfold refused
  rw [List.filter_append, List.map_append]
  exact List.append_nil _

theorem accepted_concat_refused (calls : List Call) (provider : Provider)
    {findings : List Diagnostic} (found : findings ≠ []) :
    accepted (calls ++ [Call.mk provider findings]) = accepted calls := by
  obtain ⟨finding, others, rfl⟩ := List.exists_cons_of_ne_nil found
  unfold accepted
  rw [List.filter_append, List.map_append]
  exact List.append_nil _

theorem refused_concat_refused (calls : List Call) (provider : Provider)
    {findings : List Diagnostic} (found : findings ≠ []) :
    refused (calls ++ [Call.mk provider findings]) =
      refused calls ++ [RejectedProvider.mk provider.handshake findings] := by
  obtain ⟨finding, others, rfl⟩ := List.exists_cons_of_ne_nil found
  unfold refused
  rw [List.filter_append, List.map_append]
  rfl

/-- The registry is what these calls leave where `sdk` is spoken. -/
structure Remembers (sdk : String) (calls : List Call) (registry : Registry) : Prop where
  expectedSdk : registry.expectedSdk = sdk
  findings : ∀ call ∈ calls,
    call.findings = Handshake.incompatibilities sdk call.provider.handshake
  ids : registry.ids = ((accepted calls).map Provider.id).eraseDups
  get? : ∀ id, registry.get? id = (accepted calls).reverse.find? fun provider => provider.id == id
  rejected : registry.rejected = refused calls
  members : ∀ provider ∈ registry.active, provider ∈ accepted calls

section Remembers

variable {sdk : String} {calls : List Call} {registry : Registry} {provider : Provider}

theorem remembers_nothing (sdk : String) : Remembers sdk [] { expectedSdk := sdk } where
  expectedSdk := rfl
  findings _ member := absurd member List.not_mem_nil
  ids := rfl
  get? _ := rfl
  rejected := rfl
  members _ member := absurd member List.not_mem_nil

theorem Remembers.findings_concat (remembers : Remembers sdk calls registry)
    {findings : List Diagnostic}
    (answered : findings = Handshake.incompatibilities sdk provider.handshake) :
    ∀ call ∈ calls ++ [Call.mk provider findings],
      call.findings = Handshake.incompatibilities sdk call.provider.handshake := by
  intro call member
  rcases List.mem_append.mp member with before | last
  · exact remembers.findings call before
  · rw [List.mem_singleton.mp last]
    exact answered

theorem Remembers.accept (remembers : Remembers sdk calls registry)
    (compatible : Handshake.incompatibilities sdk provider.handshake = []) :
    Remembers sdk (calls ++ [Call.mk provider []])
      { registry with active := enlist provider registry.active } where
  expectedSdk := remembers.expectedSdk
  findings := remembers.findings_concat compatible.symm
  ids := by
    have known : provider.id ∈ registry.ids ↔ provider.id ∈ (accepted calls).map Provider.id := by
      rw [remembers.ids, List.mem_eraseDups]
    rw [accepted_concat_accepted, List.map_append]
    change (enlist provider registry.active).map Provider.id =
      ((accepted calls).map Provider.id ++ [provider.id]).eraseDups
    by_cases member : provider.id ∈ registry.ids
    · rw [ids_enlist_of_mem member, eraseDups_concat_of_mem (known.mp member)]
      exact remembers.ids
    · rw [ids_enlist_of_not_mem member,
        eraseDups_concat_of_not_mem fun inside => member (known.mpr inside), ← remembers.ids]
      rfl
  get? id := by
    have before := remembers.get? id
    unfold Registry.get? at before ⊢
    rw [accepted_concat_accepted, List.reverse_concat, find?_cons_named, find?_enlist, before]
  rejected := by
    rw [refused_concat_accepted]
    exact remembers.rejected
  members other member := by
    rw [accepted_concat_accepted]
    rcases mem_enlist member with new | inside
    · rw [new]
      exact List.mem_append_right _ List.mem_cons_self
    · exact List.mem_append_left _ (remembers.members other inside)

theorem Remembers.refuse (remembers : Remembers sdk calls registry)
    {findings : List Diagnostic} (found : findings ≠ [])
    (answered : findings = Handshake.incompatibilities sdk provider.handshake) :
    Remembers sdk (calls ++ [Call.mk provider findings])
      { registry with
        rejected := registry.rejected ++ [RejectedProvider.mk provider.handshake findings] } where
  expectedSdk := remembers.expectedSdk
  findings := remembers.findings_concat answered
  ids := by
    rw [accepted_concat_refused calls provider found]
    exact remembers.ids
  get? := by
    rw [accepted_concat_refused calls provider found]
    exact remembers.get?
  rejected := by
    rw [refused_concat_refused calls provider found, ← remembers.rejected]
  members := by
    rw [accepted_concat_refused calls provider found]
    exact remembers.members

theorem Remembers.register (remembers : Remembers sdk calls registry) (provider : Provider) :
    Remembers sdk (calls ++ [Call.mk provider (registry.register provider).2])
      (registry.register provider).1 := by
  have spoken := remembers.expectedSdk
  subst spoken
  by_cases compatible :
      Handshake.incompatibilities registry.expectedSdk provider.handshake = []
  · rw [register_of_compatible compatible]
    exact remembers.accept compatible
  · rw [register_of_findings compatible]
    exact remembers.refuse compatible rfl

theorem Remembers.registerAll (remembers : Remembers sdk calls registry)
    (providers : List Provider) :
    Remembers sdk (calls ++ (registry.registerAll providers).2)
      (registry.registerAll providers).1 := by
  -- The calls so far grow at their end by the first of the calls to come.
  induction providers generalizing calls registry with
  | nil =>
      rw [Registry.registerAll, List.append_nil]
      exact remembers
  | cons provider rest ih =>
      have onward := ih (remembers.register provider)
      rw [List.append_assoc] at onward
      exact onward

theorem Remembers.sameMajor_of_mem (remembers : Remembers sdk calls registry)
    (active : provider ∈ registry.active) :
    Version.SameMajor sdk provider.handshake.sdkVersion := by
  obtain ⟨call, kept, isProvider⟩ := List.mem_map.mp (remembers.members provider active)
  obtain ⟨member, faultless⟩ := List.mem_filter.mp kept
  have findings := remembers.findings call member
  rw [List.isEmpty_iff.mp faultless, isProvider] at findings
  exact (Handshake.incompatibilities_eq_nil_iff sdk provider.handshake).mp findings.symm

theorem Remembers.ids_nodup (remembers : Remembers sdk calls registry) : registry.ids.Nodup := by
  rw [remembers.ids]
  exact nodup_eraseDups _

end Remembers

theorem get?_of_mem {registry : Registry} (distinct : registry.ids.Nodup) {provider : Provider}
    (active : provider ∈ registry.active) : registry.get? provider.id = some provider := by
  have named : (provider.id == provider.id) = true := beq_self_eq_true _
  have isSome : (registry.get? provider.id).isSome = true :=
    List.find?_isSome.mpr ⟨provider, active, named⟩
  cases found : registry.get? provider.id with
  | none =>
      rw [found] at isSome
      cases isSome
  | some other =>
      have member := List.mem_of_find?_eq_some found
      rw [List.inj_on_of_nodup_map distinct member active (id_of_get? found)]

theorem findings_of_mem_refused {calls : List Call} {rejected : RejectedProvider}
    (member : rejected ∈ refused calls) : rejected.findings ≠ [] := by
  obtain ⟨call, kept, isRejected⟩ := List.mem_map.mp member
  have found := (List.mem_filter.mp kept).2
  rw [← isRejected]
  intro faultless
  change call.findings = [] at faultless
  rw [faultless] at found
  cases found

theorem registerAll_providers (registry : Registry) (providers : List Provider) :
    (registry.registerAll providers).2.map Call.provider = providers := by
  induction providers generalizing registry with
  | nil => rfl
  | cons provider rest ih =>
      have onward := ih (registry.register provider).1
      rw [registerAll, List.map_cons, onward]

/-- What a registry holds after any calls. The calls come with their answers: an answer is free of
findings exactly if the provider speaks the major version of the registry. -/
theorem registerAll_keeps_last_accepted (sdk : String) (providers : List Provider) :
    let start : Registry := { expectedSdk := sdk }
    let registry := (start.registerAll providers).1
    let calls := (start.registerAll providers).2
    calls.map Call.provider = providers ∧
    (∀ call ∈ calls, call.findings = [] ↔
      Version.SameMajor sdk call.provider.handshake.sdkVersion) ∧
    registry.ids.Nodup ∧
    (∀ provider ∈ registry.active,
      registry.get? provider.id = some provider ∧
      Version.SameMajor sdk provider.handshake.sdkVersion) ∧
    registry.ids = ((accepted calls).map Provider.id).eraseDups ∧
    (∀ id, registry.get? id =
      ((accepted calls).filter fun provider => provider.id == id).getLast?) ∧
    registry.rejected = refused calls ∧
    (∀ rejected ∈ registry.rejected, rejected.findings ≠ []) ∧
    ∀ provider, (registry.register provider).2 ≠ [] →
      (registry.register provider).1.active = registry.active := by
  intro start registry calls
  have remembers : Remembers sdk calls registry :=
    (remembers_nothing sdk).registerAll providers
  have distinct := remembers.ids_nodup
  refine ⟨registerAll_providers start providers, ?answers, distinct, ?active, remembers.ids,
    ?last, remembers.rejected, ?reasons, fun _ => active_of_refusal⟩
  case answers =>
    intro call member
    rw [remembers.findings call member]
    exact Handshake.incompatibilities_eq_nil_iff sdk call.provider.handshake
  case active =>
    intro provider member
    exact ⟨get?_of_mem distinct member, remembers.sameMajor_of_mem member⟩
  case last =>
    intro id
    rw [remembers.get? id, List.getLast?_filter]
  case reasons =>
    intro rejected member
    rw [remembers.rejected] at member
    exact findings_of_mem_refused member

end Registry

end RuleCompiler
