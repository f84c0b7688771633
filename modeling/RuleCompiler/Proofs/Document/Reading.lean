import Mathlib.Algebra.Group.Nat.Even
import RuleCompiler.Proofs.Document.Frontmatter

/-!
What reading a document from markdown makes of each part of the text. The parts that the delimiters
cut out are the text again when they are put together, the frontmatter is what the codec is asked
about, and the outline has the headings outside fences at their lines in the whole text.
-/

namespace RuleCompiler

namespace Markdown

/-! ### Delimiters -/

/-- The two ways to write the first line of a frontmatter. -/
def openers : List (List Char) :=
  [['-', '-', '-', '\n'], ['-', '-', '-', '\r', '\n']]

theorem afterOpener?_append {opener : List Char} (opens : opener ∈ openers) (rest : List Char) :
    afterOpener? (opener ++ rest) = some rest := by
  rcases List.mem_cons.mp opens with rfl | second
  · rfl
  · obtain rfl := List.mem_singleton.mp second
    rfl

theorem exists_opener_of_afterOpener? {text rest : List Char}
    (opened : afterOpener? text = some rest) : ∃ opener ∈ openers, text = opener ++ rest := by
  unfold afterOpener? at opened
  split at opened
  · obtain rfl := Option.some.inj opened
    exact ⟨_, List.mem_cons_self, rfl⟩
  · obtain rfl := Option.some.inj opened
    exact ⟨_, List.mem_cons_of_mem _ List.mem_cons_self, rfl⟩
  · cases opened

theorem wholeLines_opener {opener : List Char} (opens : opener ∈ openers) (rest : List Char) :
    Text.wholeLines (opener ++ rest) = opener :: Text.wholeLines rest := by
  rcases List.mem_cons.mp opens with rfl | second
  · have unbroken : '\n' ∉ ['-', '-', '-'] := by decide
    exact Text.wholeLines_line unbroken rest
  · obtain rfl := List.mem_singleton.mp second
    have unbroken : '\n' ∉ ['-', '-', '-', '\r'] := by decide
    exact Text.wholeLines_line unbroken rest

theorem exists_closer_of_cutAtCloser {lines before after : List (List Char)}
    (cut : cutAtCloser lines = some (before, after)) :
    ∃ closer, lines = before ++ closer :: after ∧ isCloser closer = true ∧
      ∀ line ∈ before, isCloser line = false := by
  induction lines generalizing before with
  | nil => cases cut
  | cons line lines ih =>
      rw [cutAtCloser] at cut
      split at cut
      · next closes =>
          obtain ⟨rfl, rfl⟩ := Prod.mk.inj (Option.some.inj cut)
          exact ⟨line, rfl, closes, fun _ inside => absurd inside List.not_mem_nil⟩
      · next goesOn =>
          obtain ⟨⟨below, rest⟩, cutBelow, shape⟩ := Option.map_eq_some_iff.mp cut
          obtain ⟨rfl, rfl⟩ := Prod.mk.inj shape
          obtain ⟨closer, rfl, closes, inside⟩ := ih cutBelow
          refine ⟨closer, rfl, closes, ?_⟩
          intro other member
          rcases List.mem_cons.mp member with rfl | inBelow
          · exact Bool.eq_false_iff.mpr goesOn
          · exact inside other inBelow

theorem cutAtCloser_eq_none_iff {lines : List (List Char)} :
    cutAtCloser lines = none ↔ ∀ line ∈ lines, isCloser line = false := by
  refine ⟨?_, cutAtCloser_eq_none⟩
  intro uncut
  induction lines with
  | nil => exact fun _ member => absurd member List.not_mem_nil
  | cons line lines ih =>
      rw [cutAtCloser] at uncut
      split at uncut
      · cases uncut
      · next goesOn =>
          intro other member
          rcases List.mem_cons.mp member with rfl | inRest
          · exact Bool.eq_false_iff.mpr goesOn
          · exact ih (Option.map_eq_none_iff.mp uncut) other inRest

/-- The parts of a text whose frontmatter has some lines and whose contents have others. -/
def Parts.between (before after : List (List Char)) : Parts :=
  { frontmatter := some before.flatten
    contents := after.flatten
    linesBefore := before.length + 2 }

theorem split_append {opener : List Char} (opens : opener ∈ openers) (rest : List Char) :
    split (opener ++ rest) = (cutAtCloser (Text.wholeLines rest)).map
      fun (before, after) => Parts.between before after := by
  rw [split, afterOpener?_append opens]
  rfl

/-- What comes before the contents of a text is made of whole lines of it, and they are counted. -/
theorem exists_lead_of_split {text : List Char} {parts : Parts} (cut : split text = some parts) :
    ∃ lead, text = lead ++ parts.contents ∧
      Text.wholeLines text = Text.wholeLines lead ++ Text.wholeLines parts.contents ∧
      parts.linesBefore = (Text.wholeLines lead).length := by
  unfold split at cut
  split at cut
  · obtain rfl := Option.some.inj cut
    exact ⟨[], rfl, rfl, rfl⟩
  · next rest opened =>
      obtain ⟨opener, opens, rfl⟩ := exists_opener_of_afterOpener? opened
      obtain ⟨⟨before, after⟩, cutRest, rfl⟩ := Option.map_eq_some_iff.mp cut
      obtain ⟨closer, lines, -, -⟩ := exists_closer_of_cutAtCloser cutRest
      have whole : Text.wholeLines (opener ++ rest) =
          (opener :: before ++ [closer]) ++ after := by
        rw [wholeLines_opener opens, lines, List.append_assoc]
        rfl
      obtain ⟨leadLines, afterLines⟩ := Text.wholeLines_cut whole
      refine ⟨(opener :: before ++ [closer]).flatten, ?_, ?_, ?_⟩
      · rw [← List.flatten_append, ← whole, Text.wholeLines_flatten]
      · rw [whole, leadLines, afterLines]
      · rw [leadLines, List.length_append, List.length_cons]
        rfl

/-! ### Headings -/

/-- The shape of a heading: as many `#` as its level, a blank, and a rest around the title. -/
theorem heading?_eq_some_iff {line title : List Char} {level : Nat} :
    heading? line = some (level, title) ↔
      1 ≤ level ∧ level ≤ 6 ∧ ∃ rest,
        Text.trimStart line = List.replicate level '#' ++ ' ' :: rest ∧ Text.trim rest = title := by
  let isMark : Char → Bool := fun c => c == '#'
  let trimmed := Text.trimStart line
  have cut : trimmed = trimmed.takeWhile isMark ++ trimmed.dropWhile isMark :=
    List.takeWhile_append_dropWhile.symm
  have restIs : trimmed.drop (trimmed.takeWhile isMark).length = trimmed.dropWhile isMark :=
    (congrArg (List.drop (trimmed.takeWhile isMark).length) cut).trans List.drop_left
  have unfolded : heading? line =
      if 1 ≤ (trimmed.takeWhile isMark).length ∧ (trimmed.takeWhile isMark).length ≤ 6 ∧
          (trimmed.dropWhile isMark).head? = some ' ' then
        some ((trimmed.takeWhile isMark).length, Text.trim (trimmed.dropWhile isMark))
      else none := by
    rw [← restIs]
    rfl
  rw [unfolded]
  constructor
  · intro isHeading
    split at isHeading
    · next shape =>
        obtain ⟨positive, atMost, blank⟩ := shape
        obtain ⟨rfl, rfl⟩ := Prod.mk.inj (Option.some.inj isHeading)
        obtain ⟨rest, restShape⟩ := List.head?_eq_some_iff.mp blank
        have marks : trimmed.takeWhile isMark =
            List.replicate (trimmed.takeWhile isMark).length '#' := by
          refine List.eq_replicate_of_mem ?_
          intro c member
          have isMarked : isMark c = true := List.mem_takeWhile_imp member
          exact eq_of_beq isMarked
        refine ⟨positive, atMost, rest, ?_, ?_⟩
        · rw [← marks, ← restShape]
          exact cut
        · rw [restShape]
          rfl
    · cases isHeading
  · rintro ⟨positive, atMost, rest, shape, rfl⟩
    have allMarks : ∀ c ∈ List.replicate level '#', isMark c = true := by
      intro c member
      rw [List.eq_of_mem_replicate member]
      rfl
    have marks : trimmed.takeWhile isMark = List.replicate level '#' :=
      calc trimmed.takeWhile isMark
          = (List.replicate level '#' ++ ' ' :: rest).takeWhile isMark :=
            congrArg (List.takeWhile isMark) shape
        _ = List.replicate level '#' ++ (' ' :: rest).takeWhile isMark :=
            List.takeWhile_append_of_pos allMarks
        _ = List.replicate level '#' := List.append_nil _
    have restShape : trimmed.dropWhile isMark = ' ' :: rest :=
      (congrArg (List.dropWhile isMark) shape).trans (List.dropWhile_append_of_pos allMarks)
    rw [marks, restShape, List.length_replicate, if_pos ⟨positive, atMost, rfl⟩]
    rfl

/-- A heading is on the first line, or below it; there a fence on the first line tells. -/
theorem mem_headings_cons {inFence : Bool} {number : Nat} {text : List Char}
    {lines : List (List Char)} {heading : Section} :
    heading ∈ headings inFence number (text :: lines) ↔
      (heading.line = number ∧ isFence text = false ∧ inFence = false ∧
        heading? text = some (heading.level, heading.title.toList)) ∨
      heading ∈ headings (inFence ^^ isFence text) (number + 1) lines := by
  rw [headings]
  cases fence : isFence text with
  | true =>
      rw [if_pos rfl, Bool.xor_true]
      exact (or_iff_right fun atHead => Bool.noConfusion atHead.2.1).symm
  | false =>
      rw [if_neg Bool.false_ne_true, Bool.xor_false]
      cases inFence with
      | true => exact (or_iff_right fun atHead => Bool.noConfusion atHead.2.2.1).symm
      | false =>
          rw [if_neg Bool.false_ne_true]
          cases read : heading? text with
          | none => exact (or_iff_right fun atHead => Option.some_ne_none _ atHead.2.2.2.symm).symm
          | some found =>
              obtain ⟨level, title⟩ := found
              rw [List.mem_cons]
              refine or_congr ?_ Iff.rfl
              constructor
              · rintro rfl
                rw [String.toList_ofList]
                exact ⟨rfl, rfl, rfl, rfl⟩
              · rintro ⟨atLine, -, -, same⟩
                obtain ⟨rfl, rfl⟩ := Prod.mk.inj (Option.some.inj same)
                rw [String.ofList_toList, ← atLine]

/-- The headings of lines, the first of which has the number `number`: those outside a fence, that
is, after an even number of fences where the one that is open at the start counts. -/
theorem mem_headings_iff {inFence : Bool} {number : Nat} {lines : List (List Char)}
    {heading : Section} :
    heading ∈ headings inFence number lines ↔ ∃ before line after,
      lines = before ++ line :: after ∧ heading.line = number + before.length ∧
      isFence line = false ∧ (Even (before.countP isFence) ↔ inFence = false) ∧
      heading? line = some (heading.level, heading.title.toList) := by
  induction lines generalizing inFence number with
  | nil =>
      refine iff_of_false List.not_mem_nil ?_
      rintro ⟨before, line, after, shape, -⟩
      exact List.append_ne_nil_of_right_ne_nil before (List.cons_ne_nil line after) shape.symm
  | cons text lines ih =>
      -- the parity below the first line, against the one with it
      have parity : ∀ before : List (List Char),
          (Even ((text :: before).countP isFence) ↔ inFence = false) ↔
            (Even (before.countP isFence) ↔ (inFence ^^ isFence text) = false) := by
        intro before
        cases fence : isFence text with
        | true =>
            rw [List.countP_cons_of_pos fence, Nat.even_add_one]
            cases inFence with
            | true => simp
            | false => simp
        | false =>
            rw [List.countP_cons_of_neg (Bool.eq_false_iff.mp fence), Bool.xor_false]
      rw [mem_headings_cons, ih]
      constructor
      · rintro (⟨atLine, noFence, outside, read⟩ |
          ⟨before, line, after, rfl, atLine, noFence, even, read⟩)
        · exact ⟨[], text, lines, rfl, atLine, noFence, iff_of_true Even.zero outside, read⟩
        · refine ⟨text :: before, line, after, rfl, ?_, noFence, (parity before).mpr even, read⟩
          rw [atLine, List.length_cons, Nat.add_assoc, Nat.add_comm 1]
      · rintro ⟨before, line, after, shape, atLine, noFence, even, read⟩
        cases before with
        | nil =>
            obtain ⟨rfl, rfl⟩ := List.cons.inj shape
            exact Or.inl ⟨atLine, noFence, even.mp Even.zero, read⟩
        | cons first before =>
            obtain ⟨rfl, rfl⟩ := List.cons.inj shape
            refine Or.inr ⟨before, line, after, rfl, ?_, noFence, (parity before).mp even, read⟩
            rw [atLine, List.length_cons, Nat.add_assoc, Nat.add_comm 1]

theorem headings_increase (inFence : Bool) (number : Nat) (lines : List (List Char)) :
    (headings inFence number lines).Pairwise fun earlier later => earlier.line < later.line := by
  induction lines generalizing inFence number with
  | nil => exact List.Pairwise.nil
  | cons text lines ih =>
      rw [headings]
      split
      · exact ih _ _
      · split
        · refine List.pairwise_cons.mpr ⟨?_, ih _ _⟩
          intro later member
          obtain ⟨before, line, after, -, atLine, -⟩ := mem_headings_iff.mp member
          rw [atLine]
          exact Nat.lt_of_lt_of_le (Nat.lt_succ_self number) (Nat.le_add_right _ _)
        · exact ih _ _

/-- A heading in the contents of a text, given the lines of the text and those of them that lie
before the contents: the line is not a fence, it stands after an even number of them, and once
trimmed at the start it has `#` up to the level, a blank, and a rest around the title. -/
def IsHeadingOf (lines leading : List (List Char)) (heading : Section) : Prop :=
  ∃ before line after rest, lines = leading ++ before ++ line :: after ∧
    heading.line = (leading ++ before).length + 1 ∧
    isFence line = false ∧ Even (before.countP isFence) ∧
    1 ≤ heading.level ∧ heading.level ≤ 6 ∧
    Text.trimStart line = List.replicate heading.level '#' ++ ' ' :: rest ∧
    Text.trim rest = heading.title.toList

theorem mem_outline_iff {leading : List (List Char)} {parts : Parts}
    (counted : parts.linesBefore = leading.length) {heading : Section} :
    heading ∈ (outline parts).sections ↔
      IsHeadingOf (leading ++ Text.bareLines parts.contents) leading heading := by
  unfold outline IsHeadingOf
  rw [mem_headings_iff]
  constructor
  · rintro ⟨before, line, after, shape, atLine, noFence, even, read⟩
    obtain ⟨positive, atMost, rest, marks, title⟩ := heading?_eq_some_iff.mp read
    refine ⟨before, line, after, rest, ?_, ?_, noFence, even.mpr rfl, positive, atMost, marks,
      title⟩
    · rw [shape, List.append_assoc]
    · rw [atLine, counted, List.length_append]
      omega
  · rintro ⟨before, line, after, rest, shape, atLine, noFence, even, positive, atMost, marks, title⟩
    refine ⟨before, line, after, ?_, ?_, noFence, iff_of_true even rfl,
      heading?_eq_some_iff.mpr ⟨positive, atMost, rest, marks, title⟩⟩
    · rw [List.append_assoc] at shape
      exact List.append_cancel_left shape
    · rw [atLine, counted, List.length_append]
      omega

end Markdown

namespace Document

open Markdown

/-- The document that a path and the parts of its text make with a frontmatter. -/
def ofParts (path : Path) (parts : Parts) (frontmatter : Value) : Document :=
  { source :=
      { id := path.stem?.getD path.text
        path := some path
        contents := String.ofList parts.contents }
    metadata := { frontmatter, version := version? frontmatter }
    outline := Markdown.outline parts }

variable {yaml : Yaml.Codec} {path : Path} {text : String}

theorem ofMarkdownBy_of_uncut (uncut : split (dropByteOrderMark text.toList) = none) :
    ofMarkdownBy yaml path text = .error (.unterminated path) := by
  unfold ofMarkdownBy
  rw [uncut]
  rfl

/-- The frontmatter between the delimiters as the codec reads it, or an empty one. -/
def partFrontmatter (yaml : Yaml.Codec) (path : Path) (parts : Parts) :
    Except DocumentError Value :=
  match parts.frontmatter with
  | some raw => readFrontmatter yaml path raw
  | none => .ok (.object [])

theorem ofMarkdownBy_of_cut {parts : Parts}
    (cut : split (dropByteOrderMark text.toList) = some parts) :
    ofMarkdownBy yaml path text =
      (partFrontmatter yaml path parts).map (ofParts path parts) := by
  unfold ofMarkdownBy partFrontmatter
  rw [cut]
  obtain ⟨frontmatter, contents, linesBefore⟩ := parts
  cases frontmatter with
  | none => rfl
  | some raw =>
      cases readFrontmatter yaml path raw with
      | error _ => rfl
      | ok _ => rfl

theorem exists_parts_of_ok {document : Document}
    (read : ofMarkdownBy yaml path text = .ok document) :
    ∃ parts frontmatter, split (dropByteOrderMark text.toList) = some parts ∧
      document = ofParts path parts frontmatter := by
  cases cut : split (dropByteOrderMark text.toList) with
  | none =>
      rw [ofMarkdownBy_of_uncut cut] at read
      cases read
  | some parts =>
      rw [ofMarkdownBy_of_cut cut] at read
      cases found : partFrontmatter yaml path parts with
      | error _ =>
          rw [found] at read
          cases read
      | ok frontmatter =>
          rw [found] at read
          exact ⟨parts, frontmatter, rfl, (Except.ok.inj read).symm⟩

theorem readFrontmatter_ne_unterminated (raw : List Char) :
    readFrontmatter yaml path raw ≠ .error (.unterminated path) := by
  unfold readFrontmatter
  split
  · nofun
  · split
    · nofun
    · split
      · nofun
      · nofun

section Closer

variable {opener rest closer : List Char} {before after : List (List Char)}
  (opens : opener ∈ openers) (marked : dropByteOrderMark text.toList = opener ++ rest)
  (lines : Text.wholeLines rest = before ++ closer :: after) (closes : isCloser closer = true)
  (inside : ∀ line ∈ before, isCloser line = false)

include opens marked lines closes inside

/-- What a text with a frontmatter is cut into: the opener, the lines before the first closer, the
closer and the lines after it. -/
theorem ofMarkdownBy_of_closer :
    ofMarkdownBy yaml path text =
      (readFrontmatter yaml path before.flatten).map
        (ofParts path (Parts.between before after)) := by
  refine ofMarkdownBy_of_cut ?_
  rw [marked, split_append opens, lines, cutAtCloser_append inside, cutAtCloser, if_pos closes]
  simp only [Option.map_some, List.append_nil]

theorem frontmatter_of_closer :
    (ofMarkdownBy yaml path text).map frontmatter = readFrontmatter yaml path before.flatten := by
  rw [ofMarkdownBy_of_closer opens marked lines closes inside]
  cases readFrontmatter yaml path before.flatten with
  | error _ => rfl
  | ok _ => rfl

theorem contents_of_closer {document : Document}
    (read : ofMarkdownBy yaml path text = .ok document) :
    document.source.contents.toList = after.flatten := by
  rw [ofMarkdownBy_of_closer opens marked lines closes inside] at read
  cases found : readFrontmatter yaml path before.flatten with
  | error _ =>
      rw [found] at read
      cases read
  | ok frontmatter =>
      rw [found] at read
      obtain rfl := Except.ok.inj read
      exact String.toList_ofList

/-- The codec matters by what it makes of the text between the delimiters. -/
theorem ofMarkdownBy_congr {other : Yaml.Codec}
    (alike : other.read (String.ofList before.flatten) = yaml.read (String.ofList before.flatten)) :
    ofMarkdownBy other path text = ofMarkdownBy yaml path text := by
  rw [ofMarkdownBy_of_closer opens marked lines closes inside,
    ofMarkdownBy_of_closer opens marked lines closes inside, readFrontmatter, readFrontmatter, alike]

end Closer

theorem ofMarkdownBy_unterminated_iff {opener rest : List Char} (opens : opener ∈ openers)
    (marked : dropByteOrderMark text.toList = opener ++ rest) :
    ofMarkdownBy yaml path text = .error (.unterminated path) ↔
      ∀ line ∈ Text.wholeLines rest, isCloser line = false := by
  rw [← cutAtCloser_eq_none_iff]
  cases cut : cutAtCloser (Text.wholeLines rest) with
  | none =>
      refine iff_of_true (ofMarkdownBy_of_uncut ?_) rfl
      rw [marked, split_append opens, cut]
      rfl
  | some found =>
      obtain ⟨before, after⟩ := found
      obtain ⟨closer, lines, closes, inside⟩ := exists_closer_of_cutAtCloser cut
      refine iff_of_false ?_ (Option.some_ne_none _)
      rw [ofMarkdownBy_of_closer opens marked lines closes inside]
      cases read : readFrontmatter yaml path before.flatten with
      | ok frontmatter => nofun
      | error cause =>
          intro failed
          have terminated : readFrontmatter yaml path before.flatten ≠ .error (.unterminated path) :=
            readFrontmatter_ne_unterminated before.flatten
          apply terminated
          rw [read]
          exact congrArg Except.error (Except.error.inj failed)

theorem ofMarkdownBy_of_unopened
    (unopened : ∀ opener ∈ openers, ¬ opener <+: dropByteOrderMark text.toList) :
    ∃ document, ofMarkdownBy yaml path text = .ok document ∧
      document.source.contents.toList = dropByteOrderMark text.toList ∧
      document.frontmatter = .object [] := by
  have noOpener : afterOpener? (dropByteOrderMark text.toList) = none := by
    rw [← Option.not_isSome_iff_eq_none]
    intro isOpened
    obtain ⟨rest, opened⟩ := Option.isSome_iff_exists.mp isOpened
    obtain ⟨opener, opens, shape⟩ := exists_opener_of_afterOpener? opened
    exact unopened opener opens ⟨rest, shape.symm⟩
  have cut : split (dropByteOrderMark text.toList) =
      some { frontmatter := none, contents := dropByteOrderMark text.toList, linesBefore := 0 } := by
    rw [split, noOpener]
  exact ⟨_, ofMarkdownBy_of_cut cut, String.toList_ofList, rfl⟩

/-- The contents of a document end its text, and its sections are the headings of these lines. -/
theorem exists_leading_of_ok {document : Document}
    (read : ofMarkdownBy yaml path text = .ok document) :
    ∃ leading, dropByteOrderMark text.toList = leading ++ document.source.contents.toList ∧
      Text.wholeLines (dropByteOrderMark text.toList) =
        Text.wholeLines leading ++ Text.wholeLines document.source.contents.toList ∧
      ∀ heading, heading ∈ document.outline.sections ↔
        IsHeadingOf (Text.bareLines (dropByteOrderMark text.toList)) (Text.bareLines leading)
          heading := by
  obtain ⟨parts, frontmatter, cut, rfl⟩ := exists_parts_of_ok read
  obtain ⟨leading, shape, lines, counted⟩ := exists_lead_of_split cut
  have contents : (ofParts path parts frontmatter).source.contents.toList = parts.contents :=
    String.toList_ofList
  rw [contents]
  refine ⟨leading, shape, lines, ?_⟩
  intro heading
  have bare : Text.bareLines (dropByteOrderMark text.toList) =
      Text.bareLines leading ++ Text.bareLines parts.contents := by
    unfold Text.bareLines
    rw [lines, List.map_append]
  rw [bare]
  exact mem_outline_iff (counted.trans (List.length_map _).symm)

theorem sections_increase {document : Document}
    (read : ofMarkdownBy yaml path text = .ok document) :
    document.outline.sections.Pairwise fun earlier later => earlier.line < later.line := by
  obtain ⟨parts, frontmatter, -, rfl⟩ := exists_parts_of_ok read
  exact headings_increase _ _ _

/-- Reading markdown, part by part. Without a first line `---` all of the text is contents. With
one the text ends in an error exactly if no later line is a closer, and else the first closer cuts
it with nothing lost, the text before it being what the codec is asked about. The sections of a
document are in the order of their lines, and are exactly the headings of the contents. -/
theorem ofMarkdownBy_parts (yaml : Yaml.Codec) (path : Path) (text : String) :
    let marked := dropByteOrderMark text.toList
    let answer := ofMarkdownBy yaml path text
    ((∀ opener ∈ openers, ¬ opener <+: marked) →
      ∃ document, answer = .ok document ∧ document.source.contents.toList = marked ∧
        document.frontmatter = .object []) ∧
    (∀ opener ∈ openers, ∀ rest, marked = opener ++ rest →
      (answer = .error (.unterminated path) ↔
        ∀ line ∈ Text.wholeLines rest, isCloser line = false) ∧
      ∀ before closer after, Text.wholeLines rest = before ++ closer :: after →
        isCloser closer = true → (∀ line ∈ before, isCloser line = false) →
        marked = opener ++ before.flatten ++ closer ++ after.flatten ∧
        answer.map frontmatter = readFrontmatter yaml path before.flatten ∧
        (∀ other : Yaml.Codec,
          other.read (String.ofList before.flatten) = yaml.read (String.ofList before.flatten) →
          ofMarkdownBy other path text = answer) ∧
        ∀ document, answer = .ok document →
          document.source.contents.toList = after.flatten) ∧
    ∀ document, answer = .ok document → ∃ leading,
      marked = leading ++ document.source.contents.toList ∧
      Text.wholeLines marked =
        Text.wholeLines leading ++ Text.wholeLines document.source.contents.toList ∧
      (document.outline.sections.Pairwise fun earlier later => earlier.line < later.line) ∧
      ∀ heading, heading ∈ document.outline.sections ↔
        IsHeadingOf (Text.bareLines marked) (Text.bareLines leading) heading := by
  intro marked answer
  refine ⟨ofMarkdownBy_of_unopened, ?opened, ?headed⟩
  case opened =>
    intro opener opens rest shape
    refine ⟨ofMarkdownBy_unterminated_iff opens shape, ?_⟩
    intro before closer after lines closes inside
    refine ⟨?_, frontmatter_of_closer opens shape lines closes inside,
      fun _ => ofMarkdownBy_congr opens shape lines closes inside,
      fun _ => contents_of_closer opens shape lines closes inside⟩
    rw [shape, ← Text.wholeLines_flatten rest, lines]
    simp only [List.flatten_append, List.flatten_cons, List.append_assoc]
  case headed =>
    intro document isRead
    obtain ⟨leading, shape, lines, headings⟩ := exists_leading_of_ok isRead
    exact ⟨leading, shape, lines, sections_increase isRead, headings⟩

/-- A rule with a frontmatter of one empty line and two headings, one of them in a fence. -/
def fencedRule : String :=
  "\ufeff---\r\n\n---\n# Rule\n\x60\x60\x60\n# Fenced\n\x60\x60\x60\n"

def fencedDocument : Document :=
  ofParts ⟨"/p/a.md"⟩
    (Parts.between [['\n']]
      ["# Rule\n".toList, "\x60\x60\x60\n".toList, "# Fenced\n".toList, "\x60\x60\x60\n".toList])
    (.object [])

theorem fencedRule_parts :
    ofMarkdownBy .standard ⟨"/p/a.md"⟩ fencedRule ≠ .error (.unterminated ⟨"/p/a.md"⟩) ∧
    fencedDocument.source.contents.toList =
      "# Rule\n\x60\x60\x60\n# Fenced\n\x60\x60\x60\n".toList ∧
    { title := "Rule", level := 1, line := 4 } ∈ fencedDocument.outline.sections := by
  have marked : dropByteOrderMark fencedRule.toList = ['-', '-', '-', '\r', '\n'] ++
      "\n---\n# Rule\n\x60\x60\x60\n# Fenced\n\x60\x60\x60\n".toList := by decide +kernel
  have opens : ['-', '-', '-', '\r', '\n'] ∈ openers := by decide
  have lines : Text.wholeLines "\n---\n# Rule\n\x60\x60\x60\n# Fenced\n\x60\x60\x60\n".toList =
      [['\n']] ++ "---\n".toList :: ["# Rule\n".toList, "\x60\x60\x60\n".toList,
        "# Fenced\n".toList, "\x60\x60\x60\n".toList] := by decide +kernel
  have isRead : ofMarkdownBy .standard ⟨"/p/a.md"⟩ fencedRule = .ok fencedDocument :=
    ofMarkdownBy_of_closer opens marked lines (by decide) (by decide)
  obtain ⟨-, opened, headed⟩ := ofMarkdownBy_parts .standard ⟨"/p/a.md"⟩ fencedRule
  obtain ⟨unterminated, cut⟩ := opened _ opens _ marked
  refine ⟨?_, (cut _ _ _ lines (by decide) (by decide)).2.2.2 _ isRead, ?_⟩
  · intro failed
    exact absurd (unterminated.mp failed "---\n".toList (by decide +kernel)) (by decide)
  · obtain ⟨leading, shape, -, -, headings⟩ := headed _ isRead
    have whole : dropByteOrderMark fencedRule.toList =
        "---\r\n\n---\n".toList ++ fencedDocument.source.contents.toList := by decide +kernel
    obtain rfl : leading = "---\r\n\n---\n".toList :=
      List.append_cancel_right (shape.symm.trans whole)
    refine (headings _).mpr ⟨[], "# Rule".toList, ["\x60\x60\x60".toList, "# Fenced".toList,
      "\x60\x60\x60".toList], "Rule".toList, ?_⟩
    decide +kernel

end Document

end RuleCompiler
