import RuleCompiler.Proofs.Collection

/-!
The same submissions in two orders, each under a label of its own. Both runs leave the same entries,
so a last answer differs only by whether its submission emits. The texts of a run are all alike only
when nothing in it emits: a merged text grows with every section.
-/

namespace RuleCompiler

/-- No collection is written like the placeholder. -/
def CollectionStyle.TellsSilence (style : CollectionStyle) : Prop :=
  ∀ collection : Collection, collection.text style.heading ≠ style.placeholder

/-! ### Lengths -/

theorem Text.length_le_length_intercalate {separator piece : String} {pieces : List String}
    (member : piece ∈ pieces) : piece.length ≤ (separator.intercalate pieces).length := by
  induction pieces with
  | nil => exact absurd member List.not_mem_nil
  | cons first rest ih =>
      cases rest with
      | nil =>
          have same := congrArg String.length (List.mem_singleton.mp member)
          rw [String.intercalate_singleton]
          exact Nat.le_of_eq same
      | cons next others =>
          rw [String.intercalate_cons_cons, String.length_append, String.length_append]
          rcases List.mem_cons.mp member with atHead | inRest
          · rw [atHead]
            omega
          · have below := ih inRest
            omega

theorem Text.length_lt_length_intercalate {separator piece : String} {pieces : List String}
    (positive : 0 < separator.length) (member : piece ∈ pieces) (more : 2 ≤ pieces.length) :
    piece.length < (separator.intercalate pieces).length := by
  cases pieces with
  | nil => exact absurd member List.not_mem_nil
  | cons first rest =>
      cases rest with
      | nil =>
          rw [List.length_singleton] at more
          omega
      | cons next others =>
          rw [String.intercalate_cons_cons, String.length_append, String.length_append]
          rcases List.mem_cons.mp member with atHead | inRest
          · rw [atHead]
            omega
          · have below : piece.length ≤ (separator.intercalate (next :: others)).length :=
              Text.length_le_length_intercalate inRest
            omega

namespace Collection

theorem text_sections (heading : Option String) :
    ∃ top, ∀ collection : Collection, collection.text heading =
      top ++ separator.intercalate
        (collection.entries.map fun entry => sectionText entry.1 entry.2) ++ "\n" :=
  ⟨_, fun _ => rfl⟩

theorem text_ne_of_mem {collection alone : Collection} {entry : String × Contribution}
    (heading : Option String) (single : alone.entries = [entry]) (member : entry ∈ collection.entries)
    (more : 2 ≤ collection.entries.length) : alone.text heading ≠ collection.text heading := by
  obtain ⟨top, written⟩ := text_sections heading
  intro same
  rw [written, written, single, List.map_singleton, String.intercalate_singleton] at same
  have inside := List.mem_map_of_mem (f := fun entry => sectionText entry.1 entry.2) member
  have longer : _ < (separator.intercalate _).length :=
    Text.length_lt_length_intercalate (by decide) inside (by rw [List.length_map]; exact more)
  have lengths := congrArg String.length same
  simp only [String.length_append] at lengths
  omega

/-! ### Labels of their own -/

section Permutation

variable {workingDirectory root : Path} {style : CollectionStyle}

/-- Every submission has a label, and no two have the same. -/
structure OwnLabels (workingDirectory root : Path) (submissions : List Submission) : Prop where
  named : ∀ submission ∈ submissions, submission.source.IsNamed
  distinct : (submissions.map (Submission.label? workingDirectory root)).Nodup

theorem OwnLabels.perm {first second : List Submission} (own : OwnLabels workingDirectory root first)
    (perm : first.Perm second) : OwnLabels workingDirectory root second where
  named submission member := own.named submission (perm.mem_iff.mpr member)
  distinct := (perm.map _).nodup own.distinct

theorem OwnLabels.latest?_of_mem {submissions : List Submission}
    (own : OwnLabels workingDirectory root submissions) {submission : Submission}
    (member : submission ∈ submissions) {label : String}
    (isLabel : submission.label? workingDirectory root = some label) :
    Submission.latest? workingDirectory root submissions label = some submission.contribution := by
  unfold Submission.latest?
  cases found : submissions.reverse.find? fun other =>
      other.label? workingDirectory root = some label with
  | none =>
      have absent := List.find?_eq_none.mp found submission (List.mem_reverse.mpr member)
      rw [isLabel] at absent
      exact absurd (decide_eq_true rfl) absent
  | some other =>
      have meets := List.find?_some found
      have sameLabel : other.label? workingDirectory root = some label := of_decide_eq_true meets
      have inside := List.mem_reverse.mp (List.mem_of_find?_eq_some found)
      have same := List.inj_on_of_nodup_map own.distinct inside member
        (sameLabel.trans isLabel.symm)
      rw [same]
      rfl

/-- The order of the submissions leaves no trace in the entries. -/
theorem OwnLabels.entries_perm {first second : List Submission}
    (own : OwnLabels workingDirectory root first) (perm : first.Perm second) :
    (submitAll workingDirectory root {} second).entries =
      (submitAll workingDirectory root {} first).entries := by
  have ownSecond := own.perm perm
  apply entries_eq_of_latest_alike own.named ownSecond.named
  intro label
  cases latest : Submission.latest? workingDirectory root first label with
  | none =>
      have absent : ¬ (Submission.latest? workingDirectory root second label).isSome = true := by
        rw [Submission.latest?_isSome_iff, ← (perm.filterMap _).mem_iff,
          ← Submission.latest?_isSome_iff, latest]
        exact Bool.false_ne_true
      rw [Option.not_isSome_iff_eq_none.mp absent]
  | some contribution =>
      have present : (Submission.latest? workingDirectory root first label).isSome = true := by
        rw [latest]
        rfl
      rw [Submission.latest?_isSome_iff, List.mem_filterMap] at present
      obtain ⟨submission, member, isLabel⟩ := present
      have inFirst := own.latest?_of_mem member isLabel
      rw [latest] at inFirst
      rw [inFirst, ownSecond.latest?_of_mem (perm.mem_iff.mp member) isLabel]

theorem OwnLabels.length_entries {submissions : List Submission}
    (own : OwnLabels workingDirectory root submissions) :
    (submitAll workingDirectory root {} submissions).entries.length = submissions.length := by
  have labels : submissions.map (Submission.label? workingDirectory root) =
      (submissions.filterMap (Submission.label? workingDirectory root)).map some := by
    have named := own.named
    clear own
    induction submissions with
    | nil => rfl
    | cons submission rest ih =>
        obtain ⟨label, isLabel⟩ :=
          (named submission List.mem_cons_self).ownLabel? workingDirectory root
        have isLabel : submission.label? workingDirectory root = some label := isLabel
        rw [List.map_cons, List.filterMap_cons_some isLabel, List.map_cons, isLabel]
        rw [ih fun other member => named other (List.mem_cons_of_mem submission member)]
  have distinct := own.distinct
  rw [labels] at distinct
  have keys : (submitAll workingDirectory root {} submissions).entries.keys.Perm _ :=
    keys_submitAll_perm submissions own.named
  rw [(List.Nodup.of_map some distinct).dedup] at keys
  have lengths := keys.length_eq
  have labelled := congrArg List.length labels
  rw [List.length_map, List.length_map] at labelled
  rw [KeyedList.keys, List.length_map] at lengths
  omega

/-! ### Texts -/

def texts (style : CollectionStyle) (workingDirectory root : Path)
    (submissions : List Submission) : List String :=
  (answers style workingDirectory root {} submissions).map MergedOutput.contents

theorem getLast?_texts (style : CollectionStyle) (workingDirectory root : Path)
    {submissions : List Submission} {last : Submission}
    (atEnd : submissions.getLast? = some last) :
    (texts style workingDirectory root submissions).getLast? =
      some ((submitAll workingDirectory root {} submissions).merged style last.emit).contents := by
  unfold texts
  rw [List.getLast?_map, getLast?_answers style {} submissions atEnd]
  rfl

theorem merged_contents (collection : Collection) (emit : Bool) :
    (collection.merged style emit).contents =
      if emit then collection.text style.heading else style.placeholder := by
  unfold merged
  cases emit with
  | true => rfl
  | false => rfl

theorem emit_eq_of_contents_eq (tells : style.TellsSilence) {first second : Collection}
    {firstEmit secondEmit : Bool}
    (same : (first.merged style firstEmit).contents = (second.merged style secondEmit).contents) :
    firstEmit = secondEmit := by
  rw [merged_contents, merged_contents] at same
  cases firstEmit with
  | true =>
      cases secondEmit with
      | true => rfl
      | false => exact absurd same (tells first)
  | false =>
      cases secondEmit with
      | true => exact absurd same.symm (tells second)
      | false => rfl

theorem exists_text_of_mem (style : CollectionStyle) (workingDirectory root : Path)
    (collection : Collection) {submissions : List Submission} {submission : Submission}
    (member : submission ∈ submissions) :
    ∃ updated : Collection, (updated.merged style submission.emit).contents ∈
      (answers style workingDirectory root collection submissions).map MergedOutput.contents := by
  induction submissions generalizing collection with
  | nil => exact absurd member List.not_mem_nil
  | cons first rest ih =>
      rw [answers, List.map_cons]
      rcases List.mem_cons.mp member with atHead | inRest
      · rw [atHead]
        exact ⟨_, List.mem_cons_self⟩
      · obtain ⟨updated, inside⟩ := ih (collection.submit workingDirectory root first) inRest
        exact ⟨updated, List.mem_cons_of_mem _ inside⟩

theorem contents_of_silent (collection : Collection) {submissions : List Submission}
    (silent : ∀ submission ∈ submissions, submission.emit = false) :
    ∀ text ∈ (answers style workingDirectory root collection submissions).map
      MergedOutput.contents, text = style.placeholder := by
  induction submissions generalizing collection with
  | nil => exact fun text member => absurd member List.not_mem_nil
  | cons first rest ih =>
      rw [answers, List.map_cons]
      intro text member
      rcases List.mem_cons.mp member with atHead | inRest
      · rw [atHead, merged_contents, silent first List.mem_cons_self]
        exact if_neg Bool.false_ne_true
      · exact ih (collection.submit workingDirectory root first)
          (fun other inside => silent other (List.mem_cons_of_mem first inside)) text inRest

theorem OwnLabels.text_submit_ne {first : Submission} {rest : List Submission}
    (own : OwnLabels workingDirectory root (first :: rest)) (more : rest ≠ [])
    (heading : Option String) :
    (submit workingDirectory root {} first).text heading ≠
      (submitAll workingDirectory root {} (first :: rest)).text heading := by
  have isFirst : first ∈ first :: rest := List.mem_cons_self
  obtain ⟨label, isLabel⟩ := (own.named first isFirst).ownLabel? workingDirectory root
  have begun := record_of_ownLabel? {} first.contents first.diagnostics isLabel
  have single : (submit workingDirectory root {} first).entries = [(label, first.contribution)] :=
    congrArg Collection.entries begun
  have entry : (label, first.contribution) ∈
      (submitAll workingDirectory root {} (first :: rest)).entries :=
    (mem_submitAll_iff _ own.named label _).mpr (own.latest?_of_mem isFirst isLabel)
  apply text_ne_of_mem heading single entry
  have positive := List.length_pos_of_ne_nil more
  rw [own.length_entries, List.length_cons]
  omega

/-- A run of more than one submission that hands out one text only emits nothing. -/
theorem OwnLabels.silent_of_texts_alike {submissions : List Submission}
    (own : OwnLabels workingDirectory root submissions) (tells : style.TellsSilence)
    (more : 2 ≤ submissions.length) {shared : String}
    (alike : ∀ text ∈ texts style workingDirectory root submissions, text = shared) :
    ∀ submission ∈ submissions, submission.emit = false := by
  have notEmpty : submissions ≠ [] := by
    intro empty
    rw [empty, List.length_nil] at more
    omega
  let last := submissions.getLast notEmpty
  have atEnd : submissions.getLast? = some last := List.getLast?_eq_some_getLast notEmpty
  have handedLast := getLast?_texts style workingDirectory root atEnd
  have lastShared := alike _ (List.mem_of_getLast? handedLast)
  have sameEmit : ∀ submission ∈ submissions, submission.emit = last.emit := by
    intro submission member
    obtain ⟨updated, inside⟩ := exists_text_of_mem style workingDirectory root {} member
    exact emit_eq_of_contents_eq tells ((alike _ inside).trans lastShared.symm)
  have lastSilent : last.emit = false := by
    cases emits : last.emit with
    | false => rfl
    | true =>
        -- the first text would be as long as the last one
        cases submissions with
        | nil => exact absurd rfl notEmpty
        | cons first rest =>
            have others : rest ≠ [] := by
              intro empty
              rw [empty, List.length_singleton] at more
              omega
            have firstEmits := (sameEmit first List.mem_cons_self).trans emits
            have handedFirst : ((submit workingDirectory root {} first).merged style
                first.emit).contents ∈ texts style workingDirectory root (first :: rest) :=
              List.mem_cons_self
            have firstShared := alike _ handedFirst
            rw [merged_contents, firstEmits, if_pos rfl] at firstShared
            rw [emits, merged_contents, if_pos rfl] at lastShared
            exact absurd (firstShared.trans lastShared.symm) (own.text_submit_ne others style.heading)
  exact fun submission member => (sameEmit submission member).trans lastSilent

theorem OwnLabels.texts_alike_perm {first second : List Submission}
    (own : OwnLabels workingDirectory root first) (tells : style.TellsSilence)
    (perm : first.Perm second) {shared : String}
    (alike : ∀ text ∈ texts style workingDirectory root first, text = shared) :
    ∀ text ∈ texts style workingDirectory root second, text = shared := by
  by_cases more : 2 ≤ first.length
  · have silent := own.silent_of_texts_alike tells more alike
    have silentSecond : ∀ submission ∈ second, submission.emit = false :=
      fun submission member => silent submission (perm.mem_iff.mpr member)
    intro text member
    rw [contents_of_silent {} silentSecond text member]
    have notEmpty : first ≠ [] := by
      intro empty
      rw [empty, List.length_nil] at more
      omega
    have inside := List.getLast_mem notEmpty
    obtain ⟨updated, handed⟩ := exists_text_of_mem style workingDirectory root {} inside
    have placeholder := contents_of_silent {} silent _ handed
    exact placeholder.symm.trans (alike _ handed)
  · have same : first = second := by
      cases first with
      | nil => exact perm.nil_eq
      | cons only rest =>
          have empty : rest = [] := by
            rw [List.length_cons] at more
            apply List.eq_nil_of_length_eq_zero
            omega
          rw [empty] at perm ⊢
          exact (List.perm_singleton.mp perm.symm).symm
    rw [← same]
    exact alike

theorem length_texts (style : CollectionStyle) (workingDirectory root : Path)
    (submissions : List Submission) :
    (texts style workingDirectory root submissions).length = submissions.length := by
  have counted : ∀ collection : Collection,
      (answers style workingDirectory root collection submissions).length =
        submissions.length := by
    induction submissions with
    | nil => exact fun collection => rfl
    | cons first rest ih =>
        intro collection
        rw [answers, List.length_cons, List.length_cons, ih]
  unfold texts
  rw [List.length_map, counted]

theorem OwnLabels.getLast?_texts_iff {first second : List Submission}
    (own : OwnLabels workingDirectory root first) (tells : style.TellsSilence)
    (perm : first.Perm second) :
    (texts style workingDirectory root first).getLast? =
        (texts style workingDirectory root second).getLast? ↔
      first.getLast?.map Submission.emit = second.getLast?.map Submission.emit := by
  cases firstEnd : first.getLast? with
  | none =>
      have empty := List.getLast?_eq_none_iff.mp firstEnd
      subst empty
      rw [perm.nil_eq.symm]
      exact iff_of_true rfl rfl
  | some firstLast =>
      cases secondEnd : second.getLast? with
      | none =>
          have empty := List.getLast?_eq_none_iff.mp secondEnd
          subst empty
          rw [perm.eq_nil] at firstEnd
          cases firstEnd
      | some secondLast =>
          rw [getLast?_texts style workingDirectory root firstEnd,
            getLast?_texts style workingDirectory root secondEnd, Option.map_some, Option.map_some,
            Option.some.injEq, Option.some.injEq]
          constructor
          · exact emit_eq_of_contents_eq tells
          · intro sameEmit
            rw [merged_contents, merged_contents, sameEmit]
            unfold text
            rw [own.entries_perm perm]

end Permutation

end Collection

end RuleCompiler
