import RuleCompiler.Proofs.Collection

/-!
Documents that bring no label of their own. A collection numbers them, so none of them ever takes
the entry of another. Their labels are spelled like any id or path, though: where a document brings
such a label itself, the two have one entry between them, and the later one holds it.
-/

namespace RuleCompiler

/-- A submission, with the root that its label is seen from. -/
structure Update where
  root : Path
  submission : Submission

namespace Update

/-- The label that the document brings with it. -/
def label? (workingDirectory : Path) (update : Update) : Option String :=
  update.submission.label? workingDirectory update.root

/-- The last contribution that was brought under a label. -/
def latest? (workingDirectory : Path) (updates : List Update) (label : String) :
    Option Contribution :=
  match updates with
  | [] => none
  | update :: later =>
      (latest? workingDirectory later label).or
        (if update.label? workingDirectory = some label then some update.submission.contribution
         else none)

/-- How many of the documents bring no label. -/
def unlabelled (workingDirectory : Path) (updates : List Update) : Nat :=
  updates.countP fun update => (update.label? workingDirectory).isNone

variable {workingDirectory : Path}

theorem label?_eq_none {update : Update} (noPath : update.submission.source.path = none)
    (noId : update.submission.source.id = "") : update.label? workingDirectory = none := by
  unfold label? Submission.label? DocumentSource.ownLabel?
  rw [noPath, noId]
  rfl

theorem latest?_isSome_iff (updates : List Update) (label : String) :
    (latest? workingDirectory updates label).isSome = true ↔
      label ∈ updates.filterMap (label? workingDirectory) := by
  induction updates with
  | nil => exact iff_of_false Bool.false_ne_true List.not_mem_nil
  | cons update later ih =>
      rw [latest?, Option.isSome_or, Bool.or_eq_true, ih, List.mem_filterMap, List.mem_filterMap]
      by_cases here : update.label? workingDirectory = some label
      · rw [if_pos here]
        exact iff_of_true (Or.inr rfl) ⟨update, List.mem_cons_self, here⟩
      · rw [if_neg here]
        constructor
        · rintro (⟨other, member, isLabel⟩ | impossible)
          · exact ⟨other, List.mem_cons_of_mem _ member, isLabel⟩
          · cases impossible
        · rintro ⟨other, member, isLabel⟩
          rcases List.mem_cons.mp member with rfl | isLater
          · exact absurd isLabel here
          · exact Or.inl ⟨other, isLater, isLabel⟩

end Update

namespace Collection

def anonymousLabel (number : Nat) : String :=
  "anonymous-" ++ toString number

theorem anonymousLabel_injective {first second : Nat}
    (same : anonymousLabel first = anonymousLabel second) : first = second := by
  have letters := congrArg String.toList same
  unfold anonymousLabel at letters
  rw [String.toList_append, String.toList_append] at letters
  have digits := congrArg (Nat.ofDigitChars 10 · 0) (List.append_cancel_left letters)
  simpa [Nat.toString_eq_ofList_toDigits] using digits

def update (workingDirectory : Path) (collection : Collection) (update : Update) : Collection :=
  collection.submit workingDirectory update.root update.submission

def updateAll (workingDirectory : Path) (collection : Collection) (updates : List Update) :
    Collection :=
  updates.foldl (Collection.update workingDirectory) collection

variable {workingDirectory : Path}

/-! ### One update -/

theorem update_of_label? (collection : Collection) {update : Update} {label : String}
    (own : update.label? workingDirectory = some label) :
    collection.update workingDirectory update =
      { collection with
        entries := collection.entries.insert label update.submission.contribution } :=
  record_of_ownLabel? collection _ _ own

/-- A document without a label gets the next number. -/
theorem update_of_unlabelled (collection : Collection) {update : Update}
    (unlabelled : update.label? workingDirectory = none) :
    collection.update workingDirectory update =
      { entries :=
          collection.entries.insert (anonymousLabel (collection.anonymous + 1))
            update.submission.contribution
        anonymous := collection.anonymous + 1 } := by
  unfold Update.label? Submission.label? DocumentSource.ownLabel? at unlabelled
  unfold Collection.update submit record labelFor
  cases pathEq : update.submission.source.path with
  | some path =>
      rw [pathEq] at unlabelled
      cases unlabelled
  | none =>
      rw [pathEq] at unlabelled
      by_cases hasId : update.submission.source.id ≠ ""
      · simp only [if_pos hasId] at unlabelled
        cases unlabelled
      · simp only [if_neg hasId]
        rfl

/-- An update changes no entry but the one under its label. -/
theorem get?_update (collection : Collection) (update : Update) {label : String}
    (apart : update.label? workingDirectory = none →
      label ≠ anonymousLabel (collection.anonymous + 1)) :
    (collection.update workingDirectory update).entries.get? label =
      (if update.label? workingDirectory = some label then some update.submission.contribution
        else none).or (collection.entries.get? label) := by
  cases own : update.label? workingDirectory with
  | none =>
      have different := (apart own).symm
      rw [update_of_unlabelled collection own, KeyedList.get?_insert_of_ne _ _ different]
      rfl
  | some given =>
      rw [update_of_label? collection own, KeyedList.get?_insert]
      simp only [Option.some.injEq]
      by_cases here : given = label
      · rw [if_pos here, if_pos here]
        rfl
      · rw [if_neg here, if_neg here]
        rfl

theorem anonymous_update (collection : Collection) (update : Update) :
    (collection.update workingDirectory update).anonymous =
      collection.anonymous + Update.unlabelled workingDirectory [update] := by
  unfold Update.unlabelled
  rw [List.countP_singleton]
  cases own : update.label? workingDirectory with
  | none =>
      rw [update_of_unlabelled collection own]
      rfl
  | some label =>
      rw [update_of_label? collection own]
      rfl

/-! ### Runs of updates -/

theorem unlabelled_cons (update : Update) (later : List Update) :
    Update.unlabelled workingDirectory (update :: later) =
      Update.unlabelled workingDirectory [update] + Update.unlabelled workingDirectory later := by
  unfold Update.unlabelled
  rw [← List.countP_append, List.singleton_append]

theorem anonymous_updateAll (collection : Collection) (updates : List Update) :
    (collection.updateAll workingDirectory updates).anonymous =
      collection.anonymous + Update.unlabelled workingDirectory updates := by
  induction updates generalizing collection with
  | nil => rfl
  | cons update later ih =>
      have onward := ih (collection.update workingDirectory update)
      rw [anonymous_update, Nat.add_assoc, ← unlabelled_cons] at onward
      exact onward

theorem ordered_updateAll {collection : Collection} (ordered : collection.entries.Ordered)
    (updates : List Update) :
    (collection.updateAll workingDirectory updates).entries.Ordered := by
  induction updates generalizing collection with
  | nil => exact ordered
  | cons update later ih => exact ih (ordered_record ordered _ _ _ _ _)

/-- Under a label that no document of the run is given as its number, the entry after the run is
what was last brought under it, or else what was there before. -/
theorem get?_updateAll (collection : Collection) (updates : List Update) {label : String}
    (apart : ∀ number, collection.anonymous < number →
      number ≤ collection.anonymous + Update.unlabelled workingDirectory updates →
        label ≠ anonymousLabel number) :
    (collection.updateAll workingDirectory updates).entries.get? label =
      (Update.latest? workingDirectory updates label).or (collection.entries.get? label) := by
  induction updates generalizing collection with
  | nil => rfl
  | cons update later ih =>
      rw [unlabelled_cons] at apart
      have apartHere : update.label? workingDirectory = none →
          label ≠ anonymousLabel (collection.anonymous + 1) := by
        intro unlabelled
        have one : Update.unlabelled workingDirectory [update] = 1 := by
          unfold Update.unlabelled
          rw [List.countP_singleton, unlabelled]
          rfl
        exact apart _ (by omega) (by omega)
      have onward := ih (collection.update workingDirectory update) (by
        rw [anonymous_update]
        intro number first last
        exact apart number (by omega) (by omega))
      rw [Update.latest?, Option.or_assoc, ← get?_update collection update apartHere]
      exact onward

/-- The numbers given in a run are smaller than the next one, so under that lies only what was
brought under it. -/
theorem get?_anonymousLabel_next (before : List Update) :
    (updateAll workingDirectory {} before).entries.get?
        (anonymousLabel (Update.unlabelled workingDirectory before + 1)) =
      Update.latest? workingDirectory before
        (anonymousLabel (Update.unlabelled workingDirectory before + 1)) := by
  have apart : ∀ given, 0 < given → given ≤ 0 + Update.unlabelled workingDirectory before →
      anonymousLabel (Update.unlabelled workingDirectory before + 1) ≠ anonymousLabel given := by
    intro given _ last same
    have same := anonymousLabel_injective same
    omega
  exact (get?_updateAll {} before apart).trans Option.or_none

/-- The numbers given later are greater than the last one, so only what is brought under that takes
its entry over. -/
theorem get?_anonymousLabel_updateAll (collection : Collection) (later : List Update) :
    (collection.updateAll workingDirectory later).entries.get?
        (anonymousLabel collection.anonymous) =
      (Update.latest? workingDirectory later (anonymousLabel collection.anonymous)).or
        (collection.entries.get? (anonymousLabel collection.anonymous)) := by
  apply get?_updateAll
  intro given first _ same
  have same := anonymousLabel_injective same
  omega

/-- A document without path and id is recorded under the next number, beside all other entries. It
replaces what an earlier document brought under that label, and nothing else; and only a later
document that brings the label takes the entry over. -/
theorem entry_of_unlabelled (before later : List Update) {update : Update}
    (noPath : update.submission.source.path = none) (noId : update.submission.source.id = "") :
    let reached := updateAll workingDirectory {} before
    let updated := reached.update workingDirectory update
    let label := anonymousLabel (Update.unlabelled workingDirectory before + 1)
    reached.entries.get? label = Update.latest? workingDirectory before label ∧
    (∀ other, updated.entries.get? other =
      if other = label then some update.submission.contribution
      else reached.entries.get? other) ∧
    updated.size = reached.size +
      (if label ∈ before.filterMap (Update.label? workingDirectory) then 0 else 1) ∧
    (updated.updateAll workingDirectory later).entries.get? label =
      (Update.latest? workingDirectory later label).or (some update.submission.contribution) := by
  intro reached updated label
  have unlabelled : update.label? workingDirectory = none := Update.label?_eq_none noPath noId
  have reachedNumber : reached.anonymous = Update.unlabelled workingDirectory before :=
    (anonymous_updateAll {} before).trans (Nat.zero_add _)
  have inserted : updated =
      { entries := reached.entries.insert label update.submission.contribution
        anonymous := Update.unlabelled workingDirectory before + 1 } := by
    have recorded := update_of_unlabelled reached unlabelled
    rw [reachedNumber] at recorded
    exact recorded
  have ordered : reached.entries.Ordered := by
    have none : ({} : Collection).entries.Ordered := List.Pairwise.nil
    exact ordered_updateAll none before
  have found : reached.entries.get? label = Update.latest? workingDirectory before label :=
    get?_anonymousLabel_next before
  refine ⟨found, ?_, ?_, ?_⟩
  · intro other
    rw [inserted, KeyedList.get?_insert]
    simp only [eq_comm]
  · unfold size
    rw [inserted, ordered.length_insert, found]
    simp only [Update.latest?_isSome_iff]
  · have updatedNumber : updated.anonymous = Update.unlabelled workingDirectory before + 1 := by
      rw [inserted]
    have run := @get?_anonymousLabel_updateAll workingDirectory updated later
    rw [updatedNumber] at run
    rw [run, inserted, KeyedList.get?_insert_self]

/-- A document that has no path. -/
def note (id contents : String) : Update :=
  { root := ⟨"/repo"⟩
    submission :=
      { source := { id, contents := "" }
        contents
        diagnostics := []
        emit := true } }

/-- The second nameless document of a run is one entry more. A third one leaves that entry alone; a
document whose id is its label takes it over. -/
theorem nameless_entry_taken_over :
    let reached := updateAll ⟨"/"⟩ {} [note "style" "Style", note "" "First"]
    let updated := reached.update ⟨"/"⟩ (note "" "Second")
    ((note "" "Second").submission.source.path = none ∧
      (note "" "Second").submission.source.id = "") ∧
    reached.entries.get? "anonymous-2" = none ∧
    (∀ other, updated.entries.get? other =
      if other = "anonymous-2" then some { contents := "Second", diagnostics := [] }
      else reached.entries.get? other) ∧
    updated.size = reached.size + 1 ∧
    (updated.updateAll ⟨"/"⟩ [note "" "Third"]).entries.get? "anonymous-2" =
      some { contents := "Second", diagnostics := [] } ∧
    (updated.updateAll ⟨"/"⟩ [note "anonymous-2" "Other"]).entries.get? "anonymous-2" =
      some { contents := "Other", diagnostics := [] } := by
  intro reached updated
  let before := [note "style" "Style", note "" "First"]
  have second : anonymousLabel (Update.unlabelled ⟨"/"⟩ before + 1) = "anonymous-2" := by
    decide +kernel
  obtain ⟨fresh, others, grown, kept⟩ :=
    @entry_of_unlabelled ⟨"/"⟩ before [note "" "Third"] (note "" "Second") rfl rfl
  obtain ⟨_, _, _, taken⟩ :=
    @entry_of_unlabelled ⟨"/"⟩ before [note "anonymous-2" "Other"] (note "" "Second") rfl rfl
  have secondEntry : (note "" "Second").submission.contribution =
      { contents := "Second", diagnostics := [] } :=
    congrArg (Contribution.mk · []) (by decide : Text.trimmedEnd "Second" = "Second")
  have otherEntry : (note "anonymous-2" "Other").submission.contribution =
      { contents := "Other", diagnostics := [] } :=
    congrArg (Contribution.mk · []) (by decide : Text.trimmedEnd "Other" = "Other")
  have noLabel : Update.latest? ⟨"/"⟩ [note "" "Third"] "anonymous-2" = none := rfl
  have ownLabel : Update.latest? ⟨"/"⟩ [note "anonymous-2" "Other"] "anonymous-2" =
      some (note "anonymous-2" "Other").submission.contribution := rfl
  rw [second] at fresh others grown kept taken
  rw [secondEntry] at others
  rw [noLabel, secondEntry] at kept
  rw [ownLabel, otherEntry] at taken
  exact ⟨⟨rfl, rfl⟩, fresh, others, grown.trans (by decide +kernel), kept, taken⟩

/-- A nameless document takes the entry of the document whose id is its label, and that document
takes it back. -/
theorem nameless_document_replaces_named :
    let reached := updateAll ⟨"/"⟩ {} [note "anonymous-1" "Named"]
    let updated := reached.update ⟨"/"⟩ (note "" "Nameless")
    let onward := updated.update ⟨"/"⟩ (note "anonymous-1" "Named again")
    (reached.entries.map fun (label, entry) => (label, entry.contents)) =
        [("anonymous-1", "Named")] ∧
      (updated.entries.map fun (label, entry) => (label, entry.contents)) =
        [("anonymous-1", "Nameless")] ∧
      (onward.entries.map fun (label, entry) => (label, entry.contents)) =
        [("anonymous-1", "Named again")] := by
  decide +kernel

end Collection

end RuleCompiler
