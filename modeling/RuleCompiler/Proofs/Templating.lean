import Mathlib.Data.List.Basic
import RuleCompiler.Templating

/-!
The signals for and against templates in their order, as one list. The first that is there decides,
and what comes after it does not matter. A compiler named the old way is a signal only if it stands
for templates: another compiler, in the document or in the project, says nothing.
-/

namespace RuleCompiler.Templating

/-- The first string among what is found at some places. -/
def firstText? (places : List (Option Value)) : Option String :=
  places.findSome? fun place => place.bind Value.asString?

/-- What a compiler named the old way says. -/
def compilerSignal? (compiler : Option String) : Option Decision :=
  if compiler = some templateCompiler then some ⟨true, .legacyCompiler⟩ else none

/-- What each source says, the source with the highest priority first. -/
def signals (force : Option Bool) (frontmatter : Value) (project : ProjectConfig) :
    List (Option Decision) :=
  [force.map (⟨·, .provider⟩),
   ((frontmatter.at? ["rule", "template"]).bind Value.asBool?).map (⟨·, .frontmatter⟩),
   ((project.toValue.at? ["rule", "template"]).bind Value.asBool?).map (⟨·, .project⟩),
   compilerSignal? (firstText?
    [frontmatter.get? "compiler", frontmatter.at? ["rulesets", "compiler"]]),
   compilerSignal? (firstText?
    [project.toValue.at? ["rulesets", "compiler"], project.get? "compiler"])]

/-- What some signals decide together. -/
def decided? (signals : List (Option Decision)) : Option Decision :=
  signals.findSome? id

/-- Something that is no string stands before a string. -/
def Hides (first second : Option Value) : Prop :=
  first.isSome = true ∧ first.bind Value.asString? = none ∧
    (second.bind Value.asString?).isSome = true

/-- On neither side a compiler is hidden. -/
structure Legible (frontmatter : Value) (project : ProjectConfig) : Prop where
  document : ¬ Hides (frontmatter.get? "compiler") (frontmatter.at? ["rulesets", "compiler"])
  project : ¬ Hides (project.toValue.at? ["rulesets", "compiler"]) (project.get? "compiler")

theorem text?_or_of_not_hides {first second : Option Value} (shown : ¬ Hides first second) :
    (first.or second).bind Value.asString? = firstText? [first, second] := by
  unfold firstText?
  rw [List.findSome?_cons, List.findSome?_singleton]
  cases first with
  | none => rfl
  | some value =>
      rw [Option.some_or]
      cases text : value.asString? with
      | some found =>
          rw [Option.bind_some, text]
      | none =>
          rw [Option.bind_some, text]
          have noText : second.bind Value.asString? = none := by
            rw [← Option.not_isSome_iff_eq_none]
            exact fun isText => shown ⟨rfl, text, isText⟩
          exact noText.symm

variable {force : Option Bool} {frontmatter : Value} {project : ProjectConfig}

theorem legacyEnabled_of_legible (legible : Legible frontmatter project) :
    decided? ((signals force frontmatter project).drop 3) =
      if legacyEnabled frontmatter project then some ⟨true, .legacyCompiler⟩ else none := by
  have document := text?_or_of_not_hides legible.document
  have ofProject := text?_or_of_not_hides legible.project
  change decided? [compilerSignal? _, compilerSignal? _] = _
  rw [← document, ← ofProject]
  change decided? [compilerSignal? (documentCompiler? frontmatter),
    compilerSignal? project.legacyCompiler?] = _
  unfold legacyEnabled compilerSignal?
  by_cases inDocument : documentCompiler? frontmatter = some templateCompiler
  · rw [if_pos inDocument, decide_eq_true inDocument, Bool.true_or]
    rfl
  · rw [if_neg inDocument, decide_eq_false inDocument, Bool.false_or]
    by_cases inProject : project.legacyCompiler? = some templateCompiler
    · rw [if_pos inProject, decide_eq_true inProject]
      rfl
    · rw [if_neg inProject, decide_eq_false inProject]
      rfl

/-- The three signals that are read as they stand, and what the compilers say without them. -/
theorem decide_eq (force : Option Bool) (frontmatter : Value) (project : ProjectConfig) :
    decide force frontmatter project =
      (decided? ((signals force frontmatter project).take 3)).getD
        (if legacyEnabled frontmatter project then ⟨true, .legacyCompiler⟩
        else ⟨false, .standard⟩) := by
  have projectFlag : project.ruleTemplate? =
      (project.toValue.at? ["rule", "template"]).bind Value.asBool? := rfl
  unfold decide
  rw [projectFlag]
  cases force with
  | some forced => rfl
  | none =>
      change _ = (decided? [none, Option.map _ _, Option.map _ _]).getD _
      cases (frontmatter.at? ["rule", "template"]).bind Value.asBool? with
      | some flag => rfl
      | none =>
          cases (project.toValue.at? ["rule", "template"]).bind Value.asBool? with
          | some flag => rfl
          | none => rfl

theorem decide_of_decided {decision : Decision}
    (early : decided? ((signals force frontmatter project).take 3) = some decision) :
    decide force frontmatter project = decision := by
  rw [decide_eq, early]
  rfl

theorem decide_of_legible (legible : Legible frontmatter project) :
    decide force frontmatter project =
      (decided? (signals force frontmatter project)).getD ⟨false, .standard⟩ := by
  have split : decided? (signals force frontmatter project) =
      (decided? ((signals force frontmatter project).take 3)).or
        (decided? ((signals force frontmatter project).drop 3)) := by
    unfold decided?
    rw [← List.findSome?_append, List.take_append_drop]
  rw [decide_eq, split, legacyEnabled_of_legible legible]
  cases decided? ((signals force frontmatter project).take 3) with
  | some decision => rfl
  | none =>
      cases legacyEnabled frontmatter project with
      | true => rfl
      | false => rfl

/-- The first signal that is there decides, and what comes after it does not matter. The first three
are taken as they stand; a compiler where nothing hides it. -/
theorem decide_by_first_signal (force : Option Bool) (frontmatter : Value)
    (project : ProjectConfig) :
    (∀ decision, decided? ((signals force frontmatter project).take 3) = some decision →
      decide force frontmatter project = decision) ∧
    (Legible frontmatter project →
      decide force frontmatter project =
        (decided? (signals force frontmatter project)).getD ⟨false, .standard⟩) ∧
    ∀ count otherForce otherFrontmatter otherProject,
      (decided? ((signals force frontmatter project).take count)).isSome = true →
      (signals otherForce otherFrontmatter otherProject).take count =
        (signals force frontmatter project).take count →
      (count ≤ 3 ∨
        Legible frontmatter project ∧ Legible otherFrontmatter otherProject) →
      decide otherForce otherFrontmatter otherProject = decide force frontmatter project := by
  refine ⟨fun _ => decide_of_decided, decide_of_legible, ?later⟩
  case later =>
    intro count otherForce otherFrontmatter otherProject isDecided same read
    obtain ⟨decision, first⟩ := Option.isSome_iff_exists.mp isDecided
    have firstOther :
        decided? ((signals otherForce otherFrontmatter otherProject).take count) =
          some decision := by
      rw [same, first]
    rcases read with early | ⟨legible, otherLegible⟩
    · -- a signal among the first three decides both
      rw [decide_of_decided ((List.take_prefix_take_left early).findSome?_eq_some first),
        decide_of_decided ((List.take_prefix_take_left early).findSome?_eq_some firstOther)]
    · have whole : decided? (signals force frontmatter project) = some decision :=
        (List.take_prefix count _).findSome?_eq_some first
      have wholeOther :
          decided? (signals otherForce otherFrontmatter otherProject) = some decision :=
        (List.take_prefix count _).findSome?_eq_some firstOther
      rw [decide_of_legible legible, decide_of_legible otherLegible, whole, wholeOther]

/-- A document that names the compiler for templates, whatever compiler the project names. -/
theorem document_compiler_before_project :
    decide none (.object [("compiler", .string "handlebars")])
        { fields := [("compiler", .string "mustache")] } =
      decide none (.object [("compiler", .string "handlebars")]) {} ∧
    decide none (.object [("compiler", .string "handlebars")]) {} = ⟨true, .legacyCompiler⟩ := by
  have legible : ∀ project : ProjectConfig, project.toValue.at? ["rulesets", "compiler"] = none →
      Legible (.object [("compiler", .string "handlebars")]) project := by
    intro project absent
    refine ⟨fun hides => ?_, fun hides => ?_⟩
    · exact absurd hides.2.2 (by decide)
    · rw [absent] at hides
      exact absurd hides.1 Bool.false_ne_true
  exact ⟨(decide_by_first_signal none (.object [("compiler", .string "handlebars")]) {}).2.2 4
      none (.object [("compiler", .string "handlebars")])
      { fields := [("compiler", .string "mustache")] } (by decide) (by decide)
      (Or.inr ⟨legible {} rfl, legible _ rfl⟩),
    (decide_by_first_signal none (.object [("compiler", .string "handlebars")]) {}).2.1
      (legible {} rfl)⟩

/-- Another compiler in the document does not silence the compiler of the project, and an empty
`compiler` hides the one under `rulesets`. -/
theorem document_compiler_not_first :
    (firstText? [Value.get? (.object [("compiler", .string "mustache")]) "compiler"] =
        some "mustache" ∧
      decide none (.object [("compiler", .string "mustache")])
        { fields := [("compiler", .string "handlebars")] } = ⟨true, .legacyCompiler⟩) ∧
    decided? (signals none (.object [("compiler", .null),
        ("rulesets", .object [("compiler", .string "handlebars")])]) {}) =
      some ⟨true, .legacyCompiler⟩ ∧
    decide none (.object [("compiler", .null),
      ("rulesets", .object [("compiler", .string "handlebars")])]) {} = ⟨false, .standard⟩ := by
  decide

end RuleCompiler.Templating
