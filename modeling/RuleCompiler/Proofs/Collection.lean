import Mathlib.Data.List.Dedup
import RuleCompiler.Collection
import RuleCompiler.Proofs.KeyedList
import RuleCompiler.Proofs.Text.ByteOrder

/-!
What a collection remembers of the documents that were handed to it. Under each label it keeps the
last contribution and no other, in the order of the labels, so the merged output after a run is
determined by the last contributions: neither the order in which they came nor the answers given
on the way leave a trace in it.
-/

namespace RuleCompiler

/-- The label that a document brings with it: its path as seen from the root, or else its id. -/
def DocumentSource.ownLabel? (workingDirectory root : Path) (source : DocumentSource) :
    Option String :=
  match source.path with
  | some path => some (path.relativeLabel workingDirectory root)
  | none => if source.id ≠ "" then some source.id else none

def DocumentSource.IsNamed (source : DocumentSource) : Prop :=
  source.path.isSome = true ∨ source.id ≠ ""

theorem DocumentSource.IsNamed.ownLabel? {source : DocumentSource} (named : source.IsNamed)
    (workingDirectory root : Path) :
    ∃ label, source.ownLabel? workingDirectory root = some label := by
  unfold DocumentSource.ownLabel?
  cases pathEq : source.path with
  | some path => exact ⟨_, rfl⟩
  | none =>
      rcases named with hasPath | hasId
      · rw [pathEq] at hasPath
        cases hasPath
      · exact ⟨source.id, if_pos hasId⟩

/-- A document handed to a collection. `emit` tells whether the merged output is asked for. -/
structure Submission where
  source : DocumentSource
  contents : String
  diagnostics : List Diagnostic
  emit : Bool

namespace Submission

def contribution (submission : Submission) : Contribution :=
  { contents := Text.trimmedEnd submission.contents, diagnostics := submission.diagnostics }

def label? (workingDirectory root : Path) (submission : Submission) : Option String :=
  submission.source.ownLabel? workingDirectory root

def latest? (workingDirectory root : Path) (submissions : List Submission) (label : String) :
    Option Contribution :=
  (submissions.reverse.find? fun submission =>
    submission.label? workingDirectory root = some label).map contribution

theorem latest?_nil (workingDirectory root : Path) (label : String) :
    latest? workingDirectory root [] label = none :=
  rfl

theorem latest?_cons (workingDirectory root : Path) (submission : Submission)
    (rest : List Submission) (label : String) :
    latest? workingDirectory root (submission :: rest) label =
      (latest? workingDirectory root rest label).or
        (if submission.label? workingDirectory root = some label then some submission.contribution
         else none) := by
  unfold latest?
  rw [List.reverse_cons, List.find?_append, Option.map_or]
  congr 1
  by_cases same : submission.label? workingDirectory root = some label
  · rw [if_pos same, List.find?_cons_of_pos (by simpa using same)]
    rfl
  · rw [if_neg same, List.find?_cons_of_neg (by simpa using same)]
    rfl

theorem latest?_isSome_iff (workingDirectory root : Path) (submissions : List Submission)
    (label : String) :
    (latest? workingDirectory root submissions label).isSome = true ↔
      label ∈ submissions.filterMap (label? workingDirectory root) := by
  unfold latest?
  rw [Option.isSome_map, List.find?_isSome, List.mem_filterMap]
  simp only [List.mem_reverse, decide_eq_true_eq]

end Submission

/-- The merged output that entries give: the heading, without blanks at its end, and a blank line;
then a section for each entry, with separators between them, and a line end. -/
def MergedOutput.ofEntries (heading : Option String) (entries : List (String × Contribution)) :
    MergedOutput :=
  { contents :=
      (match heading with
        | some heading => Text.trimmedEnd heading ++ "\n\n"
        | none => "") ++
      "\n\n---\n\n".intercalate
        (entries.map fun (label, contribution) =>
          "<!-- source: " ++ label ++ " -->\n\n" ++ contribution.contents) ++
      "\n"
    diagnostics := entries.flatMap fun (_, contribution) => contribution.diagnostics
    documents := entries.length }

namespace Collection

theorem merged_emitting (collection : Collection) (style : CollectionStyle) :
    collection.merged style true = MergedOutput.ofEntries style.heading collection.entries := by
  cases headingEq : style.heading <;>
    simp only [merged, if_true, text, headingEq, MergedOutput.ofEntries, separator, size] <;> rfl

theorem labelFor_of_ownLabel? (collection : Collection) {workingDirectory root : Path}
    {source : DocumentSource} {label : String}
    (own : source.ownLabel? workingDirectory root = some label) :
    collection.labelFor workingDirectory root source = (label, collection.anonymous) := by
  unfold DocumentSource.ownLabel? at own
  unfold labelFor
  cases pathEq : source.path with
  | some path =>
      rw [pathEq] at own
      exact congrArg (·, collection.anonymous) (Option.some.inj own)
  | none =>
      rw [pathEq] at own
      by_cases hasId : source.id ≠ ""
      · simp only [if_pos hasId, Option.some.injEq] at own ⊢
        rw [own]
      · simp only [if_neg hasId] at own
        cases own

theorem record_of_ownLabel? (collection : Collection) {workingDirectory root : Path}
    {source : DocumentSource} {label : String} (contents : String) (diagnostics : List Diagnostic)
    (own : source.ownLabel? workingDirectory root = some label) :
    collection.record workingDirectory root source contents diagnostics =
      { collection with
        entries := collection.entries.insert label
          { contents := Text.trimmedEnd contents, diagnostics } } := by
  unfold record
  rw [labelFor_of_ownLabel? collection own]

/-- Recording a document again in the same words changes nothing. -/
theorem record_record (collection : Collection) (workingDirectory root : Path)
    {source : DocumentSource} (named : source.IsNamed) (contents : String)
    (diagnostics : List Diagnostic) :
    (collection.record workingDirectory root source contents diagnostics).record workingDirectory
        root source contents diagnostics =
      collection.record workingDirectory root source contents diagnostics := by
  obtain ⟨label, own⟩ := named.ownLabel? workingDirectory root
  rw [record_of_ownLabel? _ contents diagnostics own, record_of_ownLabel? _ contents diagnostics own,
    KeyedList.insert_insert]

theorem ordered_record {collection : Collection} (ordered : collection.entries.Ordered)
    (workingDirectory root : Path) (source : DocumentSource) (contents : String)
    (diagnostics : List Diagnostic) :
    (collection.record workingDirectory root source contents diagnostics).entries.Ordered :=
  ordered.insert _ _

def submit (workingDirectory root : Path) (collection : Collection) (submission : Submission) :
    Collection :=
  collection.record workingDirectory root submission.source submission.contents
    submission.diagnostics

def submitAll (workingDirectory root : Path) (collection : Collection)
    (submissions : List Submission) : Collection :=
  submissions.foldl (submit workingDirectory root) collection

/-- What is handed out for each submission of a run. -/
def answers (style : CollectionStyle) (workingDirectory root : Path) (collection : Collection) :
    (submissions : List Submission) → List MergedOutput
  | [] => []
  | submission :: rest =>
      let updated := collection.submit workingDirectory root submission
      updated.merged style submission.emit :: answers style workingDirectory root updated rest

variable {workingDirectory root : Path}

theorem ordered_submitAll {collection : Collection} (ordered : collection.entries.Ordered)
    (submissions : List Submission) :
    (collection.submitAll workingDirectory root submissions).entries.Ordered := by
  induction submissions generalizing collection with
  | nil => exact ordered
  | cons submission rest ih => exact ih (ordered_record ordered _ _ _ _ _)

/-- After a run the entry under a label is the last contribution of the run, or else what was there
before. -/
theorem get?_submitAll (collection : Collection) (submissions : List Submission)
    (named : ∀ submission ∈ submissions, submission.source.IsNamed) (label : String) :
    (collection.submitAll workingDirectory root submissions).entries.get? label =
      (Submission.latest? workingDirectory root submissions label).or
        (collection.entries.get? label) := by
  induction submissions generalizing collection with
  | nil => rw [Submission.latest?_nil, Option.none_or]; rfl
  | cons submission rest ih =>
      obtain ⟨own, ownEq⟩ :=
        (named submission List.mem_cons_self).ownLabel? workingDirectory root
      have onward := ih (collection.submit workingDirectory root submission)
        fun later member => named later (List.mem_cons_of_mem _ member)
      have stepped : (collection.submit workingDirectory root submission).entries.get? label =
          (if submission.label? workingDirectory root = some label then
            some submission.contribution else none).or (collection.entries.get? label) := by
        rw [submit, record_of_ownLabel? collection _ _ ownEq, KeyedList.get?_insert]
        simp only [Submission.label?, ownEq, Option.some.injEq]
        by_cases same : own = label
        · rw [if_pos same, if_pos same]
          rfl
        · rw [if_neg same, if_neg same, Option.none_or]
      rw [Submission.latest?_cons, Option.or_assoc, ← stepped]
      exact onward

theorem getLast?_answers (style : CollectionStyle) (collection : Collection)
    (submissions : List Submission) {last : Submission}
    (atEnd : submissions.getLast? = some last) :
    (answers style workingDirectory root collection submissions).getLast? =
      some ((collection.submitAll workingDirectory root submissions).merged style last.emit) := by
  induction submissions generalizing collection with
  | nil => cases atEnd
  | cons submission rest ih =>
      cases rest with
      | nil =>
          cases atEnd
          rfl
      | cons next others =>
          rw [List.getLast?_cons_cons] at atEnd
          have onward := ih (collection.submit workingDirectory root submission) atEnd
          rw [answers, answers, List.getLast?_cons_cons]
          exact onward

theorem ordered_submitAll_empty (workingDirectory root : Path) (submissions : List Submission) :
    (submitAll workingDirectory root {} submissions).entries.Ordered :=
  have empty : ({} : Collection).entries.Ordered := List.Pairwise.nil
  ordered_submitAll empty submissions

theorem mem_submitAll_iff (submissions : List Submission)
    (named : ∀ submission ∈ submissions, submission.source.IsNamed) (label : String)
    (contribution : Contribution) :
    (label, contribution) ∈ (submitAll workingDirectory root {} submissions).entries ↔
      Submission.latest? workingDirectory root submissions label = some contribution := by
  rw [(ordered_submitAll_empty workingDirectory root submissions).mem_iff,
    get?_submitAll {} submissions named]
  exact Iff.of_eq (congrArg (· = some contribution) Option.or_none)

theorem keys_submitAll_perm (submissions : List Submission)
    (named : ∀ submission ∈ submissions, submission.source.IsNamed) :
    (submitAll workingDirectory root {} submissions).entries.keys.Perm
      (submissions.filterMap (Submission.label? workingDirectory root)).dedup := by
  have ordered := ordered_submitAll_empty workingDirectory root submissions
  apply (List.perm_ext_iff_of_nodup ordered.keys_nodup (List.nodup_dedup _)).mpr
  intro label
  rw [List.mem_dedup, ← Submission.latest?_isSome_iff, Option.isSome_iff_exists]
  constructor
  · intro member
    obtain ⟨⟨_, contribution⟩, inside, rfl⟩ := List.mem_map.mp member
    exact ⟨contribution, (mem_submitAll_iff submissions named _ _).mp inside⟩
  · rintro ⟨contribution, found⟩
    exact List.mem_map_of_mem (f := Prod.fst)
      ((mem_submitAll_iff submissions named label contribution).mpr found)

theorem entries_eq_of_latest_alike {first second : List Submission}
    (firstNamed : ∀ submission ∈ first, submission.source.IsNamed)
    (secondNamed : ∀ submission ∈ second, submission.source.IsNamed)
    (alike : ∀ label, Submission.latest? workingDirectory root first label =
      Submission.latest? workingDirectory root second label) :
    (submitAll workingDirectory root {} second).entries =
      (submitAll workingDirectory root {} first).entries := by
  apply (ordered_submitAll_empty workingDirectory root second).ext
    (ordered_submitAll_empty workingDirectory root first)
  intro label
  rw [get?_submitAll {} second secondNamed, get?_submitAll {} first firstNamed, alike]

/-- Two runs over a fresh collection that leave the same last contributions end in the same answer:
the heading and one section for each label, in the order of the labels' bytes, with the diagnostics
in that order and the number of labels. -/
theorem last_answer_of_latest_alike (style : CollectionStyle) (workingDirectory root : Path)
    (first second : List Submission)
    (named : ∀ submission ∈ first ++ second, submission.source.IsNamed)
    (firstEmits : first.getLast?.map Submission.emit = some true)
    (secondEmits : second.getLast?.map Submission.emit = some true)
    (alike : ∀ label, Submission.latest? workingDirectory root first label =
      Submission.latest? workingDirectory root second label) :
    ∃ entries : List (String × Contribution),
      (answers style workingDirectory root {} first).getLast? =
        some (MergedOutput.ofEntries style.heading entries) ∧
      (answers style workingDirectory root {} second).getLast? =
        some (MergedOutput.ofEntries style.heading entries) ∧
      (entries.map Prod.fst).Pairwise (fun before after => Text.bytes before < Text.bytes after) ∧
      (∀ label contribution, (label, contribution) ∈ entries ↔
        Submission.latest? workingDirectory root first label = some contribution) ∧
      entries.length =
        (first.filterMap (Submission.label? workingDirectory root)).dedup.length := by
  have firstNamed : ∀ submission ∈ first, submission.source.IsNamed :=
    fun submission member => named submission (List.mem_append_left _ member)
  have secondNamed : ∀ submission ∈ second, submission.source.IsNamed :=
    fun submission member => named submission (List.mem_append_right _ member)
  have firstOrdered := ordered_submitAll_empty workingDirectory root first
  have sameEntries := entries_eq_of_latest_alike firstNamed secondNamed alike
  obtain ⟨firstLast, firstAtEnd, firstEmit⟩ := Option.map_eq_some_iff.mp firstEmits
  obtain ⟨secondLast, secondAtEnd, secondEmit⟩ := Option.map_eq_some_iff.mp secondEmits
  refine ⟨(submitAll workingDirectory root {} first).entries, ?_, ?_, ?_, ?_, ?_⟩
  · rw [getLast?_answers style {} first firstAtEnd, firstEmit, merged_emitting]
  · rw [getLast?_answers style {} second secondAtEnd, secondEmit, merged_emitting, sameEntries]
  · apply List.pairwise_map.mpr
    exact firstOrdered.imp fun before => (Text.lt_iff_bytes_lt _ _).mp before
  · exact mem_submitAll_iff first firstNamed
  · rw [← (keys_submitAll_perm first firstNamed).length_eq, KeyedList.keys, List.length_map]

/-- A document that is corrected silently and one that is not, handed over in both orders. -/
theorem last_answer_of_swapped_submissions :
    let draft : Submission :=
      { source := { id := "x", path := some ⟨"/repo/b.md"⟩, contents := "" }
        contents := "Draft", diagnostics := [], emit := true }
    let final : Submission := { draft with contents := "B \n", emit := false }
    let note : Submission :=
      { source := { id := "a", contents := "" }, contents := "A", diagnostics := [], emit := true }
    let again : Submission := { final with contents := "B", emit := true }
    let style : CollectionStyle := { heading := some "# Rules ", placeholder := "" }
    (∀ submission ∈ [draft, final, note] ++ [note, again], submission.source.IsNamed) ∧
      (∀ label, Submission.latest? ⟨"/"⟩ ⟨"repo"⟩ [draft, final, note] label =
        Submission.latest? ⟨"/"⟩ ⟨"repo"⟩ [note, again] label) ∧
      ∃ entries : List (String × Contribution),
        (answers style ⟨"/"⟩ ⟨"repo"⟩ {} [draft, final, note]).getLast? =
          some (MergedOutput.ofEntries style.heading entries) ∧
        (answers style ⟨"/"⟩ ⟨"repo"⟩ {} [note, again]).getLast? =
          some (MergedOutput.ofEntries style.heading entries) ∧
        (entries.map Prod.fst).Pairwise (fun before after =>
          Text.bytes before < Text.bytes after) ∧
        (∀ label contribution, (label, contribution) ∈ entries ↔
          Submission.latest? ⟨"/"⟩ ⟨"repo"⟩ [draft, final, note] label = some contribution) ∧
        entries.length =
          ([draft, final, note].filterMap (Submission.label? ⟨"/"⟩ ⟨"repo"⟩)).dedup.length := by
  intro draft final note again style
  have named : ∀ submission ∈ [draft, final, note] ++ [note, again],
      submission.source.IsNamed := by
    intro submission member
    simp only [List.cons_append, List.nil_append, List.mem_cons, List.not_mem_nil, or_false]
      at member
    rcases member with rfl | rfl | rfl | rfl | rfl
    · exact Or.inl rfl
    · exact Or.inl rfl
    · exact Or.inr (by decide)
    · exact Or.inr (by decide)
    · exact Or.inl rfl
  have alike : ∀ label, Submission.latest? ⟨"/"⟩ ⟨"repo"⟩ [draft, final, note] label =
      Submission.latest? ⟨"/"⟩ ⟨"repo"⟩ [note, again] label := by
    intro label
    have draftLabel : draft.label? ⟨"/"⟩ ⟨"repo"⟩ = some "b.md" := by decide +kernel
    have finalLabel : final.label? ⟨"/"⟩ ⟨"repo"⟩ = some "b.md" := by decide +kernel
    have noteLabel : note.label? ⟨"/"⟩ ⟨"repo"⟩ = some "a" := by decide +kernel
    have againLabel : again.label? ⟨"/"⟩ ⟨"repo"⟩ = some "b.md" := by decide +kernel
    have sameText : final.contribution = again.contribution :=
      congrArg (Contribution.mk · []) (by decide : Text.trimmedEnd "B \n" = Text.trimmedEnd "B")
    simp only [Submission.latest?_cons, Submission.latest?_nil, draftLabel, finalLabel, noteLabel,
      againLabel, sameText, Option.some.injEq, Option.none_or]
    by_cases atNote : "a" = label
    · subst atNote
      rfl
    · by_cases atPath : "b.md" = label
      · subst atPath
        rfl
      · simp only [if_neg atNote, if_neg atPath, Option.none_or]
  exact ⟨named, alike, last_answer_of_latest_alike style ⟨"/"⟩ ⟨"repo"⟩ _ _ named rfl rfl alike⟩

end Collection

end RuleCompiler
