import RuleCompiler.Proofs.Text.Line
import RuleCompiler.Yaml.Writer

/-!
The layout of block mappings. At the start of a line stands a key with its colon, or the mark of a
key that stands alone; other lines are indented or empty. So a mapping that this library writes has
no line that could be taken for a delimiter, whatever its texts hold.
-/

namespace RuleCompiler.Yaml

/-- A line that starts with a blank; an empty line has its line feed. -/
def IsIndented (line : List Char) : Prop :=
  ∃ c, line.head? = some c ∧ Text.isBlank c = true

def HoldsKey (line : List Char) : Prop :=
  ':' ∈ line ∨ line.head? = some '?'

structure IsBlockMapping (text : List Char) : Prop where
  lines : ∀ line ∈ Text.wholeLines text, IsIndented line ∨ HoldsKey line
  keyed : ∃ line ∈ Text.wholeLines text, HoldsKey line

theorem IsIndented.of_prefix {start line : List Char} (indented : IsIndented start)
    (goesOn : start <+: line) : IsIndented line := by
  obtain ⟨more, rfl⟩ := goesOn
  obtain ⟨c, first, blank⟩ := indented
  exact ⟨c, by rw [List.head?_append, first]; rfl, blank⟩

theorem HoldsKey.of_prefix {start line : List Char} (holds : HoldsKey start)
    (goesOn : start <+: line) : HoldsKey line := by
  obtain ⟨more, rfl⟩ := goesOn
  rcases holds with colon | mark
  · exact Or.inl (List.mem_append_left more colon)
  · exact Or.inr (by rw [List.head?_append, mark]; rfl)

/-- The colon of a key, or its mark. -/
theorem HoldsKey.exists_not_blank {line : List Char} (holds : HoldsKey line) :
    ∃ c ∈ line, Text.isBlank c = false ∧ c ≠ '-' := by
  rcases holds with colon | mark
  · exact ⟨':', colon, by decide, by decide⟩
  · exact ⟨'?', List.mem_of_head? mark, by decide, by decide⟩

/-- Where the first mapping breaks off in a line, the second one goes on in that line. -/
theorem IsBlockMapping.append {first second : List Char} (isFirst : IsBlockMapping first)
    (isSecond : IsBlockMapping second) : IsBlockMapping (first ++ second) where
  lines := by
    intro line member
    rcases Text.mem_wholeLines_append member with ⟨start, inFirst, goesOn⟩ | inSecond
    · exact (isFirst.lines start inFirst).imp (fun indented => indented.of_prefix goesOn)
        fun holds => holds.of_prefix goesOn
    · exact isSecond.lines line inSecond
  keyed := by
    obtain ⟨start, inFirst, holds⟩ := isFirst.keyed
    obtain ⟨line, member, goesOn⟩ := Text.exists_mem_wholeLines_append inFirst second
    exact ⟨line, member, holds.of_prefix goesOn⟩

/-! ### The mappings that are written -/

theorem lineFeed_not_mem_upperHex (value count : Nat) : '\n' ∉ upperHex value count := by
  have digits : ∀ digit < 16, (Nat.digitChar digit).toUpper ≠ '\n' := by decide
  unfold upperHex
  induction count generalizing value with
  | zero => exact List.not_mem_nil
  | succ count ih =>
      rw [Text.hexDigits, List.map_append, List.mem_append, not_or]
      refine ⟨ih (value / 16), ?_⟩
      rw [List.map_singleton, List.mem_singleton]
      exact (digits _ (Nat.mod_lt value (by decide))).symm

theorem escapeName?_ne_lineFeed {c name : Char} (named : escapeName? c = some name) :
    name ≠ '\n' := by
  have names : ∀ entry ∈
      [('\x00', '0'), ('\x07', 'a'), ('\x08', 'b'), ('\t', 't'), ('\n', 'n'), ('\x0b', 'v'),
       ('\x0c', 'f'), ('\r', 'r'), ('\x1b', 'e'), ('"', '"'), ('\\', '\\'), ('\u0085', 'N'),
       ('\u00a0', '_'), ('\u2028', 'L'), ('\u2029', 'P')], entry.2 ≠ '\n' := by decide
  obtain ⟨before, after, split, _⟩ := List.lookup_eq_some_iff.mp named
  apply names (c, name)
  rw [split]
  exact List.mem_append_right before List.mem_cons_self

theorem lineFeed_not_mem_doubleQuotedChar (c : Char) : '\n' ∉ doubleQuotedChar c := by
  have hexed (mark : Char) (noFeed : '\n' ≠ mark) (count : Nat) :
      '\n' ∉ '\\' :: mark :: upperHex c.toNat count :=
    List.not_mem_cons_of_ne_of_not_mem (by decide)
      (List.not_mem_cons_of_ne_of_not_mem noFeed (lineFeed_not_mem_upperHex _ _))
  unfold doubleQuotedChar
  split
  case isTrue plain =>
    rw [List.mem_singleton]
    rintro rfl
    exact absurd plain (by decide)
  case isFalse =>
    cases named : escapeName? c with
    | some name =>
        refine List.not_mem_cons_of_ne_of_not_mem (by decide) ?_
        rw [List.mem_singleton]
        exact (escapeName?_ne_lineFeed named).symm
    | none =>
        dsimp only
        split
        · exact hexed 'x' (by decide) 2
        split
        · exact hexed 'u' (by decide) 4
        · exact hexed 'U' (by decide) 8

theorem lineFeed_not_mem_doubleQuoted (text : List Char) : '\n' ∉ doubleQuoted text := by
  unfold doubleQuoted
  intro member
  rcases List.mem_append.mp member with inside | closing
  · obtain ⟨c, _, escaped⟩ := List.mem_flatMap.mp
      ((List.mem_cons.mp inside).resolve_left (by decide))
    exact lineFeed_not_mem_doubleQuotedChar c escaped
  · exact absurd (List.mem_singleton.mp closing) (by decide)

theorem lineFeed_not_mem_singleQuotedFrom {text : List Char} (unbroken : '\n' ∉ text)
    (atLineStart : Bool) : '\n' ∉ singleQuotedFrom atLineStart text := by
  have lead (flag : Bool) : '\n' ∉ (if flag then indentation else []) := by
    cases flag <;> decide
  induction text generalizing atLineStart with
  | nil => exact lead atLineStart
  | cons c rest ih =>
      obtain ⟨noFeed, unbroken⟩ := List.ne_and_not_mem_of_not_mem_cons unbroken
      unfold singleQuotedFrom
      split
      · exact List.not_mem_cons_of_ne_of_not_mem noFeed (ih unbroken true)
      · rw [List.mem_append, List.mem_append, not_or, not_or]
        refine ⟨⟨lead atLineStart, ?_⟩, ih unbroken false⟩
        split
        · decide
        · exact fun member => noFeed (List.mem_singleton.mp member)

theorem lineFeed_not_mem_singleQuoted {text : List Char} (unbroken : '\n' ∉ text) :
    '\n' ∉ singleQuoted text := by
  unfold singleQuoted
  rw [List.mem_append, List.mem_cons, not_or, not_or]
  exact ⟨⟨by decide, lineFeed_not_mem_singleQuotedFrom unbroken false⟩, by decide⟩

theorem lineFeed_not_mem_chompMark (text : List Char) : '\n' ∉ chompMark text := by
  unfold chompMark
  split
  · decide
  · split
    · decide
    · split <;> decide

theorem isBlank_of_isBreak {c : Char} (breaks : isBreak c = true) : Text.isBlank c = true := by
  unfold isBreak at breaks
  simp only [Bool.or_eq_true, beq_iff_eq] at breaks
  rcases breaks with (((rfl | rfl) | rfl) | rfl) | rfl <;> decide

/-- After a break comes the indentation, so only the first line can start with something else. -/
theorem indented_literalLines (text : List Char) :
    (∀ line ∈ Text.wholeLines (literalLines true text), IsIndented line) ∧
      ∀ line ∈ (Text.wholeLines (literalLines false text)).tail, IsIndented line := by
  induction text with
  | nil => exact ⟨fun line member => (nomatch member), fun line member => (nomatch member)⟩
  | cons c rest ih =>
      obtain ⟨afterBreak, within⟩ := ih
      by_cases breaks : isBreak c = true
      · have all : ∀ line ∈ Text.wholeLines (c :: literalLines true rest), IsIndented line := by
          intro line member
          rw [Text.wholeLines] at member
          split at member
          · rcases List.mem_cons.mp member with rfl | inRest
            · exact ⟨'\n', rfl, by decide⟩
            · exact afterBreak line inRest
          · rcases Text.mem_consLine member with first | inRest
            · exact ⟨c, first, isBlank_of_isBreak breaks⟩
            · exact afterBreak line (List.mem_of_mem_tail inRest)
        unfold literalLines
        rw [if_pos breaks, if_pos breaks]
        exact ⟨all, fun line member => all line (List.mem_of_mem_tail member)⟩
      · have noFeed : c ≠ '\n' := by
          rintro rfl
          exact breaks rfl
        have opened : Text.wholeLines (c :: literalLines false rest) =
            Text.consLine c (Text.wholeLines (literalLines false rest)) := if_neg noFeed
        unfold literalLines
        rw [if_neg breaks, if_neg breaks]
        refine ⟨fun line member => ?_, fun line member => ?_⟩
        · change line ∈ Text.consLine ' ' (Text.consLine ' '
            (Text.wholeLines (c :: literalLines false rest))) at member
          rcases Text.mem_consLine member with first | inRest
          · exact ⟨' ', first, by decide⟩
          · rw [Text.tail_consLine, opened, Text.tail_consLine] at inRest
            exact within line inRest
        · change line ∈ (Text.wholeLines (c :: literalLines false rest)).tail at member
          rw [opened, Text.tail_consLine] at member
          exact within line member

/-- What can stand after a key: the rest of the line, and indented lines. -/
def IsValueText (text : List Char) : Prop :=
  ∃ first rest, text = first ++ '\n' :: rest ∧ '\n' ∉ first ∧
    ∀ line ∈ Text.wholeLines rest, IsIndented line

theorem isValueText_line {text : List Char} (unbroken : '\n' ∉ text) :
    IsValueText (text ++ ['\n']) :=
  ⟨text, [], rfl, unbroken, fun _ member => (nomatch member)⟩

theorem isValueText_literalBlock (text : List Char) : IsValueText (literalBlock text) := by
  unfold literalBlock
  refine ⟨_, _, rfl, ?_, (indented_literalLines text).1⟩
  rw [List.mem_append, List.mem_cons, not_or, not_or]
  refine ⟨⟨by decide, ?_⟩, lineFeed_not_mem_chompMark text⟩
  split <;> decide

theorem isValueText_textLines (text : List Char) : IsValueText (textLines text) := by
  unfold textLines
  split
  case isTrue =>
    split
    · exact isValueText_literalBlock text
    · exact isValueText_line (lineFeed_not_mem_doubleQuoted text)
  case isFalse noFeed =>
    have unbroken : '\n' ∉ text := fun member => noFeed (List.contains_iff_mem.mpr member)
    split
    · exact isValueText_line unbroken
    split
    · exact isValueText_line (lineFeed_not_mem_singleQuoted unbroken)
    · exact isValueText_line (lineFeed_not_mem_doubleQuoted text)

theorem isValueText_lines (entry : Entry) : IsValueText entry.lines.toList := by
  unfold Entry.lines
  cases entry with
  | flag value =>
      cases value with
      | true =>
          have unbroken : '\n' ∉ "true".toList := by decide
          exact isValueText_line unbroken
      | false =>
          have unbroken : '\n' ∉ "false".toList := by decide
          exact isValueText_line unbroken
  | text content =>
      dsimp only
      rw [String.toList_ofList]
      exact isValueText_textLines content.toList

theorem isBlockMapping_entry {key : String} (plain : '\n' ∉ key.toList) (entry : Entry) :
    IsBlockMapping (key ++ ": " ++ entry.lines).toList := by
  obtain ⟨first, rest, shape, unbroken, indented⟩ := isValueText_lines entry
  let head := key.toList ++ ':' :: ' ' :: first
  have written : (key ++ ": " ++ entry.lines).toList = head ++ '\n' :: rest := by
    rw [String.toList_append, String.toList_append, shape, List.append_assoc, List.append_assoc]
    rfl
  have headUnbroken : '\n' ∉ head := by
    rw [List.mem_append, not_or]
    exact ⟨plain, List.not_mem_cons_of_ne_of_not_mem (by decide)
      (List.not_mem_cons_of_ne_of_not_mem (by decide) unbroken)⟩
  have holds : HoldsKey (head ++ ['\n']) :=
    Or.inl (List.mem_append_left _ (List.mem_append_right _ List.mem_cons_self))
  have lines := Text.wholeLines_line headUnbroken rest
  rw [← written] at lines
  refine ⟨fun line member => ?_, head ++ ['\n'], ?_, holds⟩
  · rw [lines] at member
    rcases List.mem_cons.mp member with rfl | inRest
    · exact Or.inr holds
    · exact Or.inl (indented line inRest)
  · rw [lines]
    exact List.mem_cons_self

theorem toList_mappingText_cons (key : String) (value : Entry) (rest : List (String × Entry)) :
    (mappingText ((key, value) :: rest)).toList =
      (key ++ ": " ++ value.lines).toList ++ (mappingText rest).toList := by
  unfold mappingText
  rw [List.map_cons, String.join_cons, String.toList_append]

/-- A mapping is written as a block, whatever the texts hold. -/
theorem isBlockMapping_mappingText {entries : List (String × Entry)} (nonempty : entries ≠ [])
    (plain : ∀ entry ∈ entries, '\n' ∉ entry.1.toList) :
    IsBlockMapping (mappingText entries).toList := by
  induction entries with
  | nil => exact absurd rfl nonempty
  | cons entry rest ih =>
      obtain ⟨key, value⟩ := entry
      have first := isBlockMapping_entry (plain (key, value) List.mem_cons_self) value
      rw [toList_mappingText_cons]
      cases rest with
      | nil =>
          rw [show (mappingText []).toList = [] from rfl, List.append_nil]
          exact first
      | cons next others =>
          exact first.append (ih (List.cons_ne_nil _ _)
            fun entry member => plain entry (List.mem_cons_of_mem _ member))

/-! ### The end of a mapping -/

/-- A text that ends in no break, or in a line feed. The other breaks end a line of YAML, but no
line of a text. -/
def EndsPlainly (text : List Char) : Prop :=
  ∀ c, text.getLast? = some c → isBreak c = true → c = '\n'

theorem getLast?_literalLines {text : List Char} (nonempty : text ≠ []) (ends : EndsPlainly text)
    (atLineStart : Bool) : (literalLines atLineStart text).getLast? = some '\n' := by
  induction text generalizing atLineStart with
  | nil => exact absurd rfl nonempty
  | cons c rest ih =>
      unfold literalLines
      cases rest with
      | nil =>
          split
          case isTrue breaks => exact congrArg some (ends c rfl breaks)
          case isFalse =>
            rw [List.getLast?_append]
            rfl
      | cons next rest =>
          have ended := ih (List.cons_ne_nil _ _) ends
          split
          · rw [List.getLast?_cons, ended]
            rfl
          · rw [List.getLast?_append, List.getLast?_cons, ended]
            rfl

theorem getLast?_textLines {text : List Char} (ends : EndsPlainly text) :
    (textLines text).getLast? = some '\n' := by
  have oneLine (written : List Char) : (written ++ ['\n']).getLast? = some '\n' :=
    List.getLast?_concat
  unfold textLines
  split
  case isTrue feed =>
    have nonempty : text ≠ [] := by
      rintro rfl
      cases feed
    split
    · unfold literalBlock
      rw [List.getLast?_append, List.getLast?_cons, getLast?_literalLines nonempty ends]
      rfl
    · exact oneLine _
  case isFalse =>
    split
    · exact oneLine _
    split
    · exact oneLine _
    · exact oneLine _

theorem isWhole_mappingText {entries : List (String × Entry)}
    (ends : ∀ key text, (key, Entry.text text) ∈ entries → EndsPlainly text.toList) :
    Text.IsWhole (mappingText entries).toList := by
  induction entries with
  | nil => exact Or.inl rfl
  | cons entry rest ih =>
      obtain ⟨key, value⟩ := entry
      have ended : value.lines.toList.getLast? = some '\n' := by
        cases value with
        | flag value => cases value <;> rfl
        | text content =>
            unfold Entry.lines
            dsimp only
            rw [String.toList_ofList]
            exact getLast?_textLines (ends key content List.mem_cons_self)
      rw [toList_mappingText_cons, String.toList_append]
      exact (Text.isWhole_append_of_getLast? _ ended).append
        (ih fun key text member => ends key text (List.mem_cons_of_mem _ member))

end RuleCompiler.Yaml
