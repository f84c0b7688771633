import Mathlib
import RuleCompiler.Document.Markdown
import RuleCompiler.Proofs.Yaml.Layout
import RuleCompiler.Provider.Format

/-!
Reading the frontmatter that was written above a body. What a codec writes stands between two
delimiter lines, and no line of a block mapping is a delimiter; so the delimiter that is found first
is the one that was written, if it starts a line.
-/

namespace RuleCompiler

namespace Markdown

theorem isCloser_of_isIndented {line : List Char} (indented : Yaml.IsIndented line) :
    isCloser line = false := by
  obtain ⟨c, first, blank⟩ := indented
  refine decide_eq_false fun trimmed => ?_
  obtain ⟨rest, whole⟩ := Text.dropEndWhile_prefix Text.isBlank line
  rw [Text.trimEnd] at trimmed
  rw [trimmed] at whole
  rw [← whole] at first
  cases first
  exact absurd blank (by decide)

theorem isCloser_of_holdsKey {line : List Char} (holds : Yaml.HoldsKey line) :
    isCloser line = false := by
  obtain ⟨c, inside, notBlank, notDash⟩ := holds.exists_not_blank
  refine decide_eq_false fun trimmed => ?_
  have kept : c ∈ Text.trimEnd line := Text.mem_dropEndWhile inside notBlank
  rw [trimmed] at kept
  simp only [List.mem_cons, List.not_mem_nil, or_false, or_self] at kept
  exact notDash kept

theorem isCloser_of_isBlockMapping {text : List Char} (laidOut : Yaml.IsBlockMapping text) :
    ∀ line ∈ Text.wholeLines text, isCloser line = false := by
  intro line member
  rcases laidOut.lines line member with indented | holds
  · exact isCloser_of_isIndented indented
  · exact isCloser_of_holdsKey holds

/-- A delimiter that does not start its line is none. -/
theorem isCloser_append_dashes {line : List Char} (nonempty : line ≠ []) :
    isCloser (line ++ ['-', '-', '-', '\n']) = false := by
  refine decide_eq_false fun trimmed => ?_
  have kept : Text.trimEnd (line ++ ['-', '-', '-', '\n']) = line ++ ['-', '-', '-'] := by
    unfold Text.trimEnd
    rw [show line ++ ['-', '-', '-', '\n'] = line ++ ['-', '-', '-'] ++ ['\n'] from by simp,
      Text.dropEndWhile_concat, if_pos (by decide),
      show line ++ ['-', '-', '-'] = line ++ ['-', '-'] ++ ['-'] from by simp,
      Text.dropEndWhile_concat, if_neg (by decide)]
  rw [kept] at trimmed
  have longer := congrArg List.length trimmed
  rw [List.length_append] at longer
  exact nonempty (List.eq_nil_of_length_eq_zero (Nat.add_eq_right.mp longer))

theorem cutAtCloser_append {lines : List (List Char)}
    (inside : ∀ line ∈ lines, isCloser line = false) (rest : List (List Char)) :
    cutAtCloser (lines ++ rest) =
      (cutAtCloser rest).map fun (before, after) => (lines ++ before, after) := by
  induction lines with
  | nil =>
      rw [List.nil_append]
      cases cutAtCloser rest with
      | none => rfl
      | some cut => rfl
  | cons line lines ih =>
      rw [List.cons_append, cutAtCloser, inside line List.mem_cons_self,
        ih fun other member => inside other (List.mem_cons_of_mem _ member)]
      cases cutAtCloser rest with
      | none => rfl
      | some cut => rfl

theorem cutAtCloser_eq_none {lines : List (List Char)}
    (inside : ∀ line ∈ lines, isCloser line = false) : cutAtCloser lines = none := by
  rw [← List.append_nil lines, cutAtCloser_append inside]
  rfl

/-- A text between delimiters, and what follows them. -/
def delimited (text rest : List Char) : List Char :=
  '-' :: '-' :: '-' :: '\n' :: (text ++ (['-', '-', '-'] ++ '\n' :: rest))

theorem split_of_opener (text rest : List Char) :
    split (delimited text rest) =
      (cutAtCloser (Text.wholeLines (text ++ (['-', '-', '-'] ++ '\n' :: rest)))).map
        fun (before, after) =>
          { frontmatter := some before.flatten
            contents := after.flatten
            linesBefore := before.length + 2 } :=
  rfl

theorem split_delimited {text : List Char} (whole : Text.IsWhole text)
    (inside : ∀ line ∈ Text.wholeLines text, isCloser line = false) (rest : List Char) :
    split (delimited text rest) =
      some
        { frontmatter := some text
          contents := rest
          linesBefore := (Text.wholeLines text).length + 2 } := by
  rw [split_of_opener, Text.wholeLines_append whole, Text.wholeLines_line (by decide), cutAtCloser_append inside,
    cutAtCloser, if_pos (by decide)]
  simp only [Option.map_some, List.append_nil, Text.wholeLines_flatten]

/-- Where a text breaks off in a line, the delimiter after it is not found. -/
theorem split_undelimited {text : List Char} (broken : ¬Text.IsWhole text)
    (inside : ∀ line ∈ Text.wholeLines text, isCloser line = false) {rest : List Char}
    (free : ∀ line ∈ Text.wholeLines rest, isCloser line = false) :
    split (delimited text rest) = none := by
  obtain ⟨before, last, rfl, whole, unbroken⟩ := Text.exists_openLine text
  have nonempty : last ≠ [] := by
    rintro rfl
    rw [List.append_nil] at broken
    exact broken whole
  have goesOn : '\n' ∉ last ++ ['-', '-', '-'] := by
    rw [List.mem_append, not_or]
    exact ⟨unbroken, by decide⟩
  rw [Text.wholeLines_append whole] at inside
  rw [split_of_opener, List.append_assoc, Text.wholeLines_append whole, ← List.append_assoc,
    Text.wholeLines_line goesOn, cutAtCloser_eq_none]
  · rfl
  intro line member
  rcases List.mem_append.mp member with inBefore | after
  · exact inside line (List.mem_append_left _ inBefore)
  rcases List.mem_cons.mp after with rfl | inRest
  · rw [List.append_assoc]
    exact isCloser_append_dashes nonempty
  · exact free line inRest

end Markdown

/-! ### Writing and reading -/

namespace Yaml

theorem read_of_stages {text : String} {tokens : List Token} {document : Document}
    (scanned : Token.scan text.toList = .ok tokens)
    (parsed : Document.ofTokens? tokens = .ok document) : read text = Datum.ofDocument document := by
  unfold read
  rw [scanned]
  dsimp only [bind, Except.bind]
  rw [parsed]

def Entry.datum : Entry → Datum
  | .text content => .string content
  | .flag value => .bool value

def Entry.value : Entry → Value
  | .text content => .string content
  | .flag value => .bool value

/-- The mapping that a codec is to read where it wrote these entries. -/
def mappingOf (entries : List (String × Entry)) : Datum :=
  .mapping (entries.map fun (key, entry) => (.string key, entry.datum))

/-- The fields that a document has for these entries. -/
def fieldsOf (entries : List (String × Entry)) : List (String × Value) :=
  entries.map fun (key, entry) => (key, entry.value)

theorem Entry.toValue?_datum (entry : Entry) : entry.datum.toValue? = some entry.value := by
  cases entry with
  | text content => rfl
  | flag value => rfl

theorem toValue?_mappingOf (entries : List (String × Entry)) :
    (mappingOf entries).toValue? = some (.ofFields (fieldsOf entries)) := by
  have fields : Datum.entriesToFields?
      (entries.map fun (key, entry) => (.string key, entry.datum)) = some (fieldsOf entries) := by
    induction entries with
    | nil => rfl
    | cons entry rest ih =>
        obtain ⟨key, value⟩ := entry
        rw [List.map_cons, Datum.entriesToFields?, ih, value.toValue?_datum]
        rfl
  unfold mappingOf
  rw [Datum.toValue?, fields]
  rfl

end Yaml

namespace Document

/-- A body under a frontmatter reads back: the frontmatter is cut where it was written, and the
document has its fields and the body. -/
structure ReadsBack (yaml : Yaml.Codec) (path : Path) (entries : List (String × Yaml.Entry))
    (body : String) : Prop where
  cut : Markdown.split (Markdown.dropByteOrderMark
      (Provider.withFrontmatterBy yaml entries body).toList) =
    some
      { frontmatter := some (yaml.write entries).toList
        contents := '\n' :: (Text.trimEnd body.toList ++ ['\n'])
        linesBefore := (Text.wholeLines (yaml.write entries).toList).length + 2 }
  read : ∃ document,
    ofMarkdownBy yaml path (Provider.withFrontmatterBy yaml entries body) = .ok document ∧
      document.frontmatter = .ofFields (Yaml.fieldsOf entries) ∧
      document.source.contents = "\n" ++ Text.trimmedEnd body ++ "\n"

variable {yaml : Yaml.Codec} {entries : List (String × Yaml.Entry)}

theorem toList_withFrontmatterBy (nonempty : entries ≠ []) (body : String) :
    (Provider.withFrontmatterBy yaml entries body).toList =
      Markdown.delimited (yaml.write entries).toList
        ('\n' :: (Text.trimEnd body.toList ++ ['\n'])) := by
  unfold Provider.withFrontmatterBy Markdown.delimited Text.trimmedEnd
  dsimp only
  rw [if_neg fun empty => nonempty (List.isEmpty_iff.mp empty)]
  simp [String.toList_append]

theorem unmarked_withFrontmatterBy (nonempty : entries ≠ []) (body : String) :
    Markdown.dropByteOrderMark (Provider.withFrontmatterBy yaml entries body).toList =
      Markdown.delimited (yaml.write entries).toList
        ('\n' :: (Text.trimEnd body.toList ++ ['\n'])) := by
  rw [toList_withFrontmatterBy nonempty]
  rfl

theorem readFrontmatter_of_isBlockMapping (path : Path)
    (laidOut : Yaml.IsBlockMapping (yaml.write entries).toList)
    (readsBack : yaml.read (yaml.write entries) = .ok (Yaml.mappingOf entries)) :
    Markdown.readFrontmatter yaml path (yaml.write entries).toList =
      .ok (.ofFields (Yaml.fieldsOf entries)) := by
  have notBlank : ¬Text.isBlankText (yaml.write entries).toList = true := by
    obtain ⟨line, member, holds⟩ := laidOut.keyed
    obtain ⟨c, inside, notBlank, _⟩ := holds.exists_not_blank
    have present : c ∈ (yaml.write entries).toList := by
      rw [← Text.wholeLines_flatten (yaml.write entries).toList]
      exact List.mem_flatten_of_mem member inside
    intro blank
    rw [List.all_eq_true.mp blank c present] at notBlank
    cases notBlank
  unfold Markdown.readFrontmatter
  rw [if_neg notBlank, String.ofList_toList, readsBack]
  dsimp only
  rw [Yaml.toValue?_mappingOf]
  rfl

/-- A block mapping whose last line has its ending reads back under every body. -/
theorem readsBack_of_isWhole (path : Path) (nonempty : entries ≠ [])
    (laidOut : Yaml.IsBlockMapping (yaml.write entries).toList)
    (readsBack : yaml.read (yaml.write entries) = .ok (Yaml.mappingOf entries))
    (whole : Text.IsWhole (yaml.write entries).toList) (body : String) :
    ReadsBack yaml path entries body := by
  have cut := Markdown.split_delimited whole (Markdown.isCloser_of_isBlockMapping laidOut)
    ('\n' :: (Text.trimEnd body.toList ++ ['\n']))
  rw [← unmarked_withFrontmatterBy nonempty body] at cut
  refine ⟨cut, ?_⟩
  unfold ofMarkdownBy
  rw [cut]
  dsimp only
  rw [readFrontmatter_of_isBlockMapping path laidOut readsBack]
  refine ⟨_, rfl, rfl, ?_⟩
  apply String.toList_injective
  simp [String.toList_append, Text.trimmedEnd]

/-- Of a block mapping that reads back alone, every body under it reads back exactly if the last
line of the mapping has its ending. Without that, the delimiter after it does not start a line. -/
theorem readsBack_iff_isWhole (yaml : Yaml.Codec) (path : Path)
    {entries : List (String × Yaml.Entry)} (nonempty : entries ≠ [])
    (laidOut : Yaml.IsBlockMapping (yaml.write entries).toList)
    (readsBack : yaml.read (yaml.write entries) = .ok (Yaml.mappingOf entries)) :
    (∀ body, ReadsBack yaml path entries body) ↔ Text.IsWhole (yaml.write entries).toList := by
  constructor
  case mpr => exact fun whole body => readsBack_of_isWhole path nonempty laidOut readsBack whole body
  case mp =>
    intro always
    by_contra broken
    have free : ∀ line ∈ Text.wholeLines ['\n', '\n'], Markdown.isCloser line = false := by decide
    have cut := (always "").cut
    rw [unmarked_withFrontmatterBy nonempty] at cut
    cases cut.symm.trans (Markdown.split_undelimited broken
      (Markdown.isCloser_of_isBlockMapping laidOut) free)

/-- A body with a line `---`, under a text with such a line. -/
theorem description_with_delimiter_readsBack :
    let entries := [("description", Yaml.Entry.text "a\n---\nb"), ("alwaysApply", .flag true)]
    let body := "x\n---\ny \n"
    Provider.withFrontmatter entries body =
        "---\ndescription: |-\n  a\n  ---\n  b\nalwaysApply: true\n---\n\nx\n---\ny\n" ∧
      entries ≠ [] ∧ Yaml.IsBlockMapping (Yaml.mappingText entries).toList ∧
      Yaml.read (Yaml.mappingText entries) = .ok (Yaml.mappingOf entries) ∧
      Text.IsWhole (Yaml.mappingText entries).toList ∧
      ReadsBack .standard ⟨"/p/a.md"⟩ entries body := by
  intro entries body
  have nonempty : entries ≠ [] := List.cons_ne_nil _ _
  have plain : ∀ entry ∈ entries, '\n' ∉ entry.1.toList := by decide
  have laidOut := Yaml.isBlockMapping_mappingText nonempty plain
  have whole : Text.IsWhole (Yaml.mappingText entries).toList := by
    apply Yaml.isWhole_mappingText
    intro key text member c isLast breaks
    rcases List.mem_pair.mp member with first | second
    · cases first
      cases isLast
      cases breaks
    · cases second
  have readsBack : Yaml.read (Yaml.mappingText entries) = .ok (Yaml.mappingOf entries) := by
    have written : Yaml.mappingText entries =
      "description: |-\n  a\n  ---\n  b\nalwaysApply: true\n" := by decide +kernel
    have scanned : Yaml.Token.scan
        "description: |-\n  a\n  ---\n  b\nalwaysApply: true\n".toList =
      .ok [.blockMappingStart, .key, .scalar "description" true, .value, .scalar "a\n---\nb" false,
        .key, .scalar "alwaysApply" true, .value, .scalar "true" true, .blockEnd,
        .streamEnd] := rfl
    rw [written, Yaml.read_of_stages scanned rfl]
    cbv
  have always := readsBack_iff_isWhole .standard ⟨"/p/a.md"⟩ nonempty laidOut readsBack
  exact ⟨by decide +kernel, nonempty, laidOut, readsBack, whole, always.mpr whole body⟩

/-- The mapping reads back alone, but ends in a break that is no line feed, so that the delimiter
does not start a line. -/
theorem applyTo_with_lineSeparator_unterminated :
    let entries := [("applyTo", Yaml.Entry.text "x\n\u2028")]
    Yaml.IsBlockMapping (Yaml.mappingText entries).toList ∧
      Yaml.read (Yaml.mappingText entries) = .ok (Yaml.mappingOf entries) ∧
      Document.ofMarkdown ⟨"/p/a.md"⟩ (Provider.withFrontmatter entries "Body") =
        .error (.unterminated ⟨"/p/a.md"⟩) := by
  intro entries
  have plain : ∀ entry ∈ entries, '\n' ∉ entry.1.toList := by decide
  refine ⟨Yaml.isBlockMapping_mappingText (List.cons_ne_nil _ _) plain, ?read, ?unterminated⟩
  case read =>
    have written : Yaml.mappingText entries = "applyTo: |+\n  x\n\u2028" := by decide +kernel
    have scanned : Yaml.Token.scan "applyTo: |+\n  x\n\u2028".toList =
      .ok [.blockMappingStart, .key, .scalar "applyTo" true, .value, .scalar "x\n\u2028" false,
        .blockEnd, .streamEnd] := rfl
    rw [written, Yaml.read_of_stages scanned rfl]
    cbv
  case unterminated =>
    have uncut : Markdown.split (Markdown.dropByteOrderMark
      (Provider.withFrontmatter entries "Body").toList) = none := by decide +kernel
    unfold ofMarkdown ofMarkdownBy
    rw [uncut]
    rfl

end Document

end RuleCompiler
