import Mathlib.Data.List.Nodup
import RuleCompiler.Proofs.Artifact.Persist
import RuleCompiler.Proofs.FileTree.Follow

/-!
Texts that are persisted at one path, one after the other. Either every text was there from the
start and nothing changes, or the last one is put where the path leads to, as if it had been the
only one. Texts count as the same when their digests agree, so this rests on the digests.
-/

namespace RuleCompiler

/-- Of these texts no two share a digest. -/
def Sha256.TellsApart (texts : List String) : Prop :=
  ∀ first ∈ texts, ∀ second ∈ texts,
    Sha256.contentDigest first = Sha256.contentDigest second → first = second

theorem Sha256.tellsApart_of_nodup {texts : List String}
    (distinct : (texts.map contentDigest).Nodup) : TellsApart texts :=
  fun _ isFirst _ isSecond same => List.inj_on_of_nodup_map distinct isFirst isSecond same

theorem Sha256.TellsApart.mono {texts fewer : List String} (apart : TellsApart texts)
    (inside : ∀ text ∈ fewer, text ∈ texts) : TellsApart fewer :=
  fun first isFirst second isSecond =>
    apart first (inside first isFirst) second (inside second isSecond)

namespace Persist

/-- All texts were persisted at the path, in this order. -/
inductive InTurn (path : Path) : FileTree → List String → FileTree → Prop
  | nil (files : FileTree) : InTurn path files [] files
  | cons {files made after : FileTree} {text : String} {texts : List String}
      {artifact : WrittenArtifact}
      (persisted : outcome files path text .atomic = (.ok artifact, made))
      (onward : InTurn path made texts after) : InTurn path files (text :: texts) after

def textsAt (files : FileTree) (path : Path) : List String :=
  match existing? files path with
  | .ok (some text) => [text]
  | _ => []

theorem mem_textsAt {files : FileTree} {path : Path} {text : String}
    (found : existing? files path = .ok (some text)) : text ∈ textsAt files path := by
  unfold textsAt
  rw [found]
  exact List.mem_singleton_self text

/-- A path that leads to where a file can be put. -/
structure Landing (files : FileTree) (path : Path) (place : Place) : Prop where
  normal : path.IsNormal
  rooted : files.Rooted
  located : files.locate false path = .ok place
  takes : place.TakesFile

def landed (files : FileTree) (place : Place) (text : String) : FileTree :=
  files.put place.names (.file (.text text))

namespace Landing

variable {files : FileTree} {path : Path} {place : Place}

theorem isAbsolute (landing : Landing files path place) : path.isAbsolute = true := by
  obtain ⟨names, _, rfl⟩ := landing.normal
  exact Path.isAbsolute_ofNames names

theorem meetsFile (landing : Landing files path place) (text : String) (followLast : Bool) :
    (landed files place text).MeetsFile place.names (.text text)
      ((landed files place text).locate followLast path) :=
  FileTree.locate_put landing.rooted landing.isAbsolute landing.located landing.takes (.text text)
    followLast

theorem landed_inj (landing : Landing files path place) {text other : String}
    (same : landed files place text = landed files place other) : text = other := by
  obtain ⟨atPlace, _⟩ := landing.meetsFile text true
  obtain ⟨otherAtPlace, _⟩ := landing.meetsFile other true
  rw [same, otherAtPlace] at atPlace
  cases atPlace
  rfl

theorem names_ne_nil (landing : Landing files path place) : place.names ≠ [] := by
  intro atRoot
  have has := FileTree.locate_sound landing.located
  have takes := landing.takes
  obtain ⟨entries, isDirectory⟩ := landing.rooted
  cases place with
  | taken names node =>
      have same : names = [] := atRoot
      rw [FileTree.Has, same, isDirectory] at has
      cases has
      exact takes
  | free names slash =>
      have same : names = [] := atRoot
      rw [FileTree.Has, same, isDirectory] at has
      cases has

theorem rooted_landed (landing : Landing files path place) (text : String) :
    (landed files place text).Rooted := by
  have hollow := FileTree.hollow_of_takesFile (FileTree.locate_sound landing.located) landing.takes
  have same := FileTree.surfaceAt?_put_file (.text text) hollow landing.names_ne_nil.symm
  have rooted := landing.rooted
  unfold FileTree.Rooted at rooted ⊢
  rw [FileTree.isDirectoryAt_iff] at rooted ⊢
  exact same.trans rooted

theorem existing?_landed (landing : Landing files path place) {text : String}
    {found : Option String} (existing : existing? (landed files place text) path = .ok found) :
    found = some text ∧
      (landed files place text).locate true path =
        .ok (.taken place.names (.file (.text text))) := by
  obtain ⟨_, ends | fails⟩ := landing.meetsFile text true
  · unfold existing? FileTree.stat at existing
    rw [ends] at existing
    cases existing
    exact ⟨rfl, ends⟩
  · unfold existing? FileTree.stat at existing
    rw [fails] at existing
    cases existing

theorem createDirectories_landed (landing : Landing files path place) {text : String}
    (ends : (landed files place text).locate true path =
      .ok (.taken place.names (.file (.text text)))) :
    (landed files place text).createDirectories (directoryOf path) =
      (.ok (), landed files place text) := by
  obtain ⟨names, areNames, normal⟩ := landing.normal
  have rooted := landing.rooted_landed text
  rcases List.eq_nil_or_concat names with empty | ⟨above, name, split⟩
  · subst empty normal
    obtain ⟨entries, atRoot⟩ := FileTree.locate_root landing.rooted landing.located
    have takes := landing.takes
    rw [atRoot] at takes
    exact absurd takes id
  · subst split
    rw [List.concat_eq_append] at areNames normal
    subst normal
    unfold directoryOf
    rw [Path.parent?_ofNames areNames, Option.getD_some]
    exact FileTree.createDirectories_above areNames rooted ends

theorem outcome_landed (landing : Landing files path place) {text next : String}
    {artifact : WrittenArtifact} {after : FileTree}
    (apart : Sha256.contentDigest text = Sha256.contentDigest next → text = next)
    (persisted : outcome (landed files place text) path next .atomic = (.ok artifact, after)) :
    after = landed files place next := by
  unfold outcome at persisted
  rw [if_pos landing.isAbsolute] at persisted
  cases existing : existing? (landed files place text) path with
  | error failure =>
      rw [existing] at persisted
      cases persisted
  | ok found =>
      obtain ⟨isText, ends⟩ := landing.existing?_landed existing
      rw [existing, isText] at persisted
      dsimp only at persisted
      rw [Option.map_some] at persisted
      by_cases same : Sha256.contentDigest text = Sha256.contentDigest next
      · rw [if_pos (congrArg some same)] at persisted
        cases persisted
        rw [apart same]
      · rw [if_neg fun equal => same (Option.some.inj equal),
          landing.createDirectories_landed ends] at persisted
        dsimp only at persisted
        split at persisted
        · cases persisted
        · next changed put =>
            cases persisted
            rcases placed_cases .atomic (landed files place text) path next with
              ⟨failure, failed⟩ | ⟨there, located, _, done | ⟨isDirect, _⟩⟩
            · rw [failed] at put
              cases put
            · rw [done] at put
              cases put
              obtain ⟨_, stays | fails⟩ := landing.meetsFile text false
              · have isThere : there = .taken place.names (.file (.text text)) :=
                  Except.ok.inj (located.symm.trans stays)
                rw [isThere]
                exact congrArg (fun root => { files with root })
                  (files.root.put_put place.names (.file (.text text)) (.file (.text next)))
              · cases located.symm.trans fails
            · cases isDirect

end Landing

/-! ### Runs -/

section InTurn

variable {files after : FileTree} {path : Path}

theorem outcome_ok_cases (normal : path.IsNormal) (rooted : files.Rooted) {text : String}
    {artifact : WrittenArtifact}
    (persisted : outcome files path text .atomic = (.ok artifact, after)) :
    (after = files ∧ ∃ found, existing? files path = .ok (some found) ∧
      Sha256.contentDigest found = Sha256.contentDigest text) ∨
    ((∃ place, Landing (withDirectories files path) path place ∧
        after = landed (withDirectories files path) place text) ∧
      existing? files path ≠ .ok (some text)) := by
  cases outcome_ends persisted with
  | unchanged same found digest => exact Or.inl ⟨same, _, found, digest⟩
  | written notThere located takes put =>
      have stillRooted := (keepsFiles_withDirectories files path).rooted rooted
      exact Or.inr ⟨⟨_, ⟨normal, stillRooted, located, takes⟩, put⟩, notThere⟩

theorem InTurn.after_landed {place : Place} {text : String} {texts : List String}
    (landing : Landing files path place) (apart : Sha256.TellsApart (text :: texts))
    (ran : InTurn path (landed files place text) texts after) :
    after = landed files place ((text :: texts).getLast (List.cons_ne_nil text texts)) := by
  induction texts generalizing text with
  | nil =>
      cases ran
      rfl
  | cons next rest ih =>
      cases ran with
      | cons persisted onward =>
          have made := landing.outcome_landed
            (apart text List.mem_cons_self next (List.mem_cons_of_mem text List.mem_cons_self))
            persisted
          subst made
          have apartOnward : Sha256.TellsApart (next :: rest) :=
            apart.mono fun other member => List.mem_cons_of_mem text member
          rw [List.getLast_cons (List.cons_ne_nil next rest)]
          exact ih apartOnward onward

/-- Nothing changed, because every text was there from the start. -/
def AllThere (files : FileTree) (path : Path) (texts : List String) : Prop :=
  ∀ text ∈ texts, existing? files path = .ok (some text)

theorem AllThere.eq {first second : List String} (firstThere : AllThere files path first)
    (secondThere : AllThere files path second) {text other : String} (inFirst : text ∈ first)
    (inSecond : other ∈ second) : text = other := by
  have isThere := firstThere text inFirst
  rw [secondThere other inSecond] at isThere
  cases isThere
  rfl

theorem AllThere.getLast?_eq {first second : List String} (firstThere : AllThere files path first)
    (secondThere : AllThere files path second) (sameLength : first.length = second.length) :
    first.getLast? = second.getLast? := by
  cases firstEnd : first.getLast? with
  | none =>
      rw [List.getLast?_eq_none_iff] at firstEnd
      rw [firstEnd, List.length_nil] at sameLength
      rw [List.length_eq_zero_iff.mp sameLength.symm]
      rfl
  | some last =>
      have inFirst := List.mem_of_getLast? firstEnd
      cases secondEnd : second.getLast? with
      | none =>
          rw [List.getLast?_eq_none_iff] at secondEnd
          rw [secondEnd, List.length_nil] at sameLength
          rw [List.length_eq_zero_iff.mp sameLength] at firstEnd
          cases firstEnd
      | some otherLast =>
          have inSecond := List.mem_of_getLast? secondEnd
          rw [firstThere.eq secondThere inFirst inSecond]

/-- What a run of texts leaves: the files as they were, or the last text where the path leads. -/
theorem InTurn.ends {texts : List String} (normal : path.IsNormal) (rooted : files.Rooted)
    (apart : Sha256.TellsApart (textsAt files path ++ texts))
    (ran : InTurn path files texts after) :
    (after = files ∧ AllThere files path texts) ∨
      ∃ place last, texts.getLast? = some last ∧ Landing (withDirectories files path) path place ∧
        after = landed (withDirectories files path) place last ∧ ¬ AllThere files path texts := by
  induction texts with
  | nil =>
      cases ran
      exact Or.inl ⟨rfl, fun text member => absurd member List.not_mem_nil⟩
  | cons text rest ih =>
      cases ran with
      | cons persisted onward =>
          have isText : text ∈ textsAt files path ++ text :: rest :=
            List.mem_append_right _ List.mem_cons_self
          rcases outcome_ok_cases normal rooted persisted with
            ⟨unchanged, found, isThere, sameDigest⟩ | ⟨⟨place, landing, made⟩, notThere⟩
          · rw [unchanged] at onward
            have same := apart found (List.mem_append_left _ (mem_textsAt isThere)) text isText
              sameDigest
            subst same
            have apartOnward : Sha256.TellsApart (textsAt files path ++ rest) :=
              apart.mono fun other member => (List.mem_append.mp member).elim
                (List.mem_append_left _)
                fun inRest => List.mem_append_right _ (List.mem_cons_of_mem found inRest)
            rcases ih apartOnward onward with
              ⟨same, allThere⟩ | ⟨place, last, atEnd, landing, put, someNew⟩
            · left
              refine ⟨same, ?_⟩
              intro other member
              rcases List.mem_cons.mp member with atHead | inRest
              · rw [atHead]
                exact isThere
              · exact allThere other inRest
            · right
              refine ⟨place, last, ?_, landing, put, ?_⟩
              · cases rest with
                | nil => cases atEnd
                | cons next more => exact atEnd
              · intro allThere
                exact someNew fun other member => allThere other (List.mem_cons_of_mem found member)
          · right
            subst made
            have apartOnward : Sha256.TellsApart (text :: rest) :=
              apart.mono fun other member => List.mem_append_right _ member
            refine ⟨place, _, List.getLast?_eq_some_getLast (List.cons_ne_nil text rest), landing,
              onward.after_landed landing apartOnward, ?_⟩
            intro allThere
            exact notThere (allThere text List.mem_cons_self)

/-- Runs of as many texts, of which both or neither were there from the start, leave the same files
exactly if they end with the same text. -/
theorem InTurn.files_eq_iff {other : FileTree} {first second : List String}
    (normal : path.IsNormal) (rooted : files.Rooted)
    (apart : Sha256.TellsApart (textsAt files path ++ (first ++ second)))
    (firstRan : InTurn path files first after) (secondRan : InTurn path files second other)
    (sameLength : first.length = second.length)
    (both : AllThere files path first ↔ AllThere files path second) :
    after = other ↔ first.getLast? = second.getLast? := by
  have apartFirst : Sha256.TellsApart (textsAt files path ++ first) := by
    apply apart.mono
    intro text member
    rw [← List.append_assoc]
    exact List.mem_append_left second member
  have apartSecond : Sha256.TellsApart (textsAt files path ++ second) := by
    apply apart.mono
    intro text member
    rcases List.mem_append.mp member with there | inSecond
    · exact List.mem_append_left _ there
    · exact List.mem_append_right _ (List.mem_append_right first inSecond)
  rcases firstRan.ends normal rooted apartFirst with
    ⟨unchanged, allThere⟩ | ⟨place, last, atEnd, landing, put, someNew⟩
  · rcases secondRan.ends normal rooted apartSecond with
      ⟨alsoUnchanged, alsoThere⟩ | ⟨_, _, _, _, _, someNew⟩
    · -- one text was there, so both runs hand out no other
      exact iff_of_true (unchanged.trans alsoUnchanged.symm)
        (allThere.getLast?_eq alsoThere sameLength)
    · exact absurd (both.mp allThere) someNew
  · rcases secondRan.ends normal rooted apartSecond with
      ⟨_, allThere⟩ | ⟨otherPlace, otherLast, otherEnd, otherLanding, otherPut, _⟩
    · exact absurd (both.mpr allThere) someNew
    · have samePlace : otherPlace = place := by
        have located := otherLanding.located.symm.trans landing.located
        exact Except.ok.inj located
      subst samePlace put otherPut
      rw [atEnd, otherEnd]
      constructor
      · intro same
        rw [landing.landed_inj same]
      · intro same
        rw [Option.some.inj same]

end InTurn

end Persist

end RuleCompiler
