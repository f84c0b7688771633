import RuleCompiler.Registry

/-!
What a registry can hold. Loading makes nothing up: an active provider is one of the candidates, and
looking up an id gives a provider with that id.
-/

namespace RuleCompiler

namespace Registry

theorem mem_enlist {provider other : Provider} {active : List Provider}
    (member : other ∈ enlist provider active) : other = provider ∨ other ∈ active := by
  induction active with
  | nil => exact Or.inl (List.mem_singleton.mp member)
  | cons first rest ih =>
      simp only [enlist] at member
      split at member
      · rcases List.mem_cons.mp member with new | inRest
        · exact Or.inl new
        · exact Or.inr (List.mem_cons_of_mem _ inRest)
      · rcases List.mem_cons.mp member with atHead | inRest
        · exact Or.inr (List.mem_cons.mpr (Or.inl atHead))
        · exact (ih inRest).imp id (List.mem_cons_of_mem _)

theorem mem_register {registry : Registry} {provider other : Provider}
    (member : other ∈ (registry.register provider).1.active) :
    other = provider ∨ other ∈ registry.active := by
  unfold register at member
  split at member
  · exact mem_enlist member
  · exact Or.inr member

theorem mem_load {candidates : List Provider} {provider : Provider}
    (member : provider ∈ (load candidates).active) : provider ∈ candidates := by
  have loaded : ∀ (candidates : List Provider) (registry : Registry),
      provider ∈ (candidates.foldl (fun registry next => (registry.register next).1)
        registry).active → provider ∈ candidates ∨ provider ∈ registry.active := by
    intro candidates
    induction candidates with
    | nil => exact fun _ inside => Or.inr inside
    | cons first rest ih =>
        intro registry inside
        rcases ih _ inside with later | earlier
        · exact Or.inl (List.mem_cons_of_mem _ later)
        · rcases mem_register earlier with new | known
          · exact Or.inl (List.mem_cons.mpr (Or.inl new))
          · exact Or.inr known
  exact (loaded candidates {} member).resolve_right List.not_mem_nil

theorem id_of_get? {registry : Registry} {id : String} {provider : Provider}
    (found : registry.get? id = some provider) : provider.id = id := by
  unfold get? at found
  have named := List.find?_some found
  exact eq_of_beq named

theorem mem_builtin_of_get? {id : String} {provider : Provider}
    (found : builtin.get? id = some provider) : provider ∈ Provider.builtin := by
  unfold get? builtin at found
  exact mem_load (List.mem_of_find?_eq_some found)

end Registry

end RuleCompiler
