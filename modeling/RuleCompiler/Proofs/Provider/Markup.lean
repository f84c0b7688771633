import RuleCompiler.Proofs.Provider.Agreement
import RuleCompiler.Proofs.Text.Blank
import RuleCompiler.Proofs.Text.Piece

/-!
Rules as markup. The text is read back by a reader that knows nothing of rules: the opening tag ends
at the first `>`, its attribute values stand between quotes, and their entities are replaced in one
pass. It finds the trigger, the patterns and the body.
-/

namespace RuleCompiler

namespace Markup

/-! ### Reading -/

/-- Entities are replaced in one pass from left to right, so that what comes of one is never part of
another. An ampersand that starts none of the four stays. -/
def unescape : List Char → List Char
  | '&' :: 'l' :: 't' :: ';' :: rest => '<' :: unescape rest
  | '&' :: 'g' :: 't' :: ';' :: rest => '>' :: unescape rest
  | '&' :: 'q' :: 'u' :: 'o' :: 't' :: ';' :: rest => '"' :: unescape rest
  | '&' :: 'a' :: 'm' :: 'p' :: ';' :: rest => '&' :: unescape rest
  | c :: rest => c :: unescape rest
  | [] => []

/-- The name of an attribute: what stands between a blank and the equals sign before its value. -/
def attributeName? (lead : List Char) : Option String := do
  let after ← Text.afterLead [' '] lead
  match Text.cutAt '=' after with
  | some (name, []) => some (String.ofList name)
  | _ => none

/-- Attributes from the pieces between the quotes of a tag, which hold names and values in turn. The
values are left as they are written. -/
def attributesOf? : List (List Char) → Option (List (String × List Char))
  | [] => none
  | [rest] => if rest = [] then some [] else none
  | lead :: value :: pieces => do
      let name ← attributeName? lead
      return (name, value) :: (← attributesOf? pieces)

/-- The attributes of an opening tag up to its `>`. -/
def attributes? (element : String) (tag : List Char) : Option (List (String × List Char)) :=
  (Text.afterLead ('<' :: element.toList) tag).bind fun inside =>
    attributesOf? (Text.splitOn '"' inside)

/-- No quote and no mark of a tag is in the value as it is written. -/
def IsQuotable (value : List Char) : Prop :=
  ∀ c ∈ value, c ≠ '"' ∧ c ≠ '<' ∧ c ≠ '>'

instance (value : List Char) : Decidable (IsQuotable value) :=
  List.decidableBAll (fun c => c ≠ '"' ∧ c ≠ '<' ∧ c ≠ '>') value

/-- A text that is one element with these attributes around this body. -/
structure IsElement (text element : String) (attributes : List (String × String)) (body : String)
    (tag inner : List Char) (written : List (String × List Char)) : Prop where
  /-- The first `>` ends the opening tag; a line end follows, and the body, and the last line. -/
  cut : Text.cutAt '>' text.toList =
    some (tag, '\n' :: (inner ++ ("\n</" ++ element ++ ">\n").toList))
  reads : attributes? element tag = some written
  quotable : ∀ entry ∈ written, IsQuotable entry.2
  decodes : written.map (fun (name, value) => (name, String.ofList (unescape value))) = attributes
  /-- Only blanks at its end are taken from the body. -/
  trimmed : Text.EndsClear inner ∧ ∃ tail, Text.AreBlank tail ∧ body.toList = inner ++ tail

/-! ### Entities -/

/-- A character as it is written in an attribute. -/
def attributeChar (c : Char) : List Char :=
  if c = '&' then "&amp;".toList
  else if c = '"' then "&quot;".toList
  else if c = '<' then "&lt;".toList
  else if c = '>' then "&gt;".toList
  else [c]

theorem attributeChar_cases (c : Char) :
    c = '&' ∨ c = '"' ∨ c = '<' ∨ c = '>' ∨
      (c ≠ '&' ∧ c ≠ '"' ∧ c ≠ '<' ∧ c ≠ '>') ∧ attributeChar c = [c] := by
  by_cases ampersand : c = '&'
  · exact Or.inl ampersand
  by_cases quote : c = '"'
  · exact Or.inr (Or.inl quote)
  by_cases less : c = '<'
  · exact Or.inr (Or.inr (Or.inl less))
  by_cases greater : c = '>'
  · exact Or.inr (Or.inr (Or.inr (Or.inl greater)))
  · have alone : attributeChar c = [c] := by
      rw [attributeChar, if_neg ampersand, if_neg quote, if_neg less, if_neg greater]
    exact Or.inr (Or.inr (Or.inr (Or.inr ⟨⟨ampersand, quote, less, greater⟩, alone⟩)))

theorem unescape_cons {c : Char} (plain : c ≠ '&') (rest : List Char) :
    unescape (c :: rest) = c :: unescape rest := by
  rw [unescape]
  all_goals
    intro _ isAmpersand
    exact absurd isAmpersand plain

theorem unescape_attributeChar (c : Char) (rest : List Char) :
    unescape (attributeChar c ++ rest) = c :: unescape rest := by
  rcases attributeChar_cases c with rfl | rfl | rfl | rfl | ⟨plain, alone⟩
  · rfl
  · rfl
  · rfl
  · rfl
  · rw [alone]
    exact unescape_cons plain.1 rest

theorem unescape_flatMap (text : List Char) : unescape (text.flatMap attributeChar) = text := by
  induction text with
  | nil => rfl
  | cons c rest ih => rw [List.flatMap_cons, unescape_attributeChar, ih]

theorem isQuotable_attributeChar (c : Char) : IsQuotable (attributeChar c) := by
  rcases attributeChar_cases c with rfl | rfl | rfl | rfl | ⟨plain, alone⟩
  · decide
  · decide
  · decide
  · decide
  · intro d single
    rw [alone] at single
    rw [List.mem_singleton.mp single]
    exact plain.2

theorem isQuotable_flatMap (text : List Char) : IsQuotable (text.flatMap attributeChar) := by
  intro d member
  obtain ⟨c, _, inChar⟩ := List.mem_flatMap.mp member
  exact isQuotable_attributeChar c d inChar

/-- Replacing the characters one after the other is the same as replacing each where it stands: the
ampersands of the entities come after the ampersands of the text are gone. -/
theorem toList_attributeText (text : String) :
    (Provider.Windsurf.attributeText text).toList = text.toList.flatMap attributeChar := by
  unfold Provider.Windsurf.attributeText Text.replaced
  simp only [String.toList_ofList, List.flatMap_assoc]
  congr 1
  funext c
  rcases attributeChar_cases c with
    rfl | rfl | rfl | rfl | ⟨⟨ampersand, quote, less, greater⟩, alone⟩
  · rfl
  · rfl
  · rfl
  · rfl
  · simp [alone, ampersand, quote, less, greater]

/-! ### Tags -/

/-- Attributes as they stand in a tag. -/
def attributesText (written : List (String × List Char)) : List Char :=
  written.flatMap fun (name, value) => (' ' :: (name.toList ++ ['='])) ++ '"' :: (value ++ ['"'])

/-- The name of an attribute is neither ended by itself nor by the tag. -/
def IsPlainName (name : String) : Prop :=
  '=' ∉ name.toList ∧ '"' ∉ name.toList ∧ '>' ∉ name.toList

theorem attributeName?_lead {name : String} (plain : IsPlainName name) :
    attributeName? (' ' :: (name.toList ++ ['='])) = some name := by
  have after : Text.afterLead [' '] (' ' :: (name.toList ++ ['='])) = some (name.toList ++ ['=']) :=
    if_pos rfl
  rw [attributeName?, after, Option.bind_eq_bind, Option.bind_some,
    Text.cutAt_append_separator plain.1 []]
  exact congrArg some String.ofList_toList

theorem attributesOf?_attributesText {written : List (String × List Char)}
    (names : ∀ entry ∈ written, IsPlainName entry.1)
    (values : ∀ entry ∈ written, IsQuotable entry.2) :
    attributesOf? (Text.splitOn '"' (attributesText written)) = some written := by
  induction written with
  | nil => rfl
  | cons entry rest ih =>
      obtain ⟨name, value⟩ := entry
      have plain := names _ List.mem_cons_self
      have leadUnquoted : '"' ∉ ' ' :: (name.toList ++ ['=']) := by
        simp [plain.2.1]
      have valueUnquoted : '"' ∉ value :=
        fun inside => (values _ List.mem_cons_self '"' inside).1 rfl
      have below := ih (fun entry inside => names entry (List.mem_cons_of_mem _ inside))
        fun entry inside => values entry (List.mem_cons_of_mem _ inside)
      have shape : attributesText ((name, value) :: rest) =
          (' ' :: (name.toList ++ ['='])) ++ '"' :: (value ++ '"' :: attributesText rest) := by
        simp [attributesText]
      obtain ⟨piece, pieces, split⟩ :=
        List.exists_cons_of_ne_nil (Text.splitOn_ne_nil '"' (attributesText rest))
      rw [shape, Text.splitOn_append_separator, Text.splitOn_append_separator,
        Text.splitOn_of_not_mem leadUnquoted, Text.splitOn_of_not_mem valueUnquoted, split]
      rw [split] at below
      simp only [List.singleton_append, attributesOf?, attributeName?_lead plain, below]
      rfl

theorem greater_not_mem_attributesText {written : List (String × List Char)}
    (names : ∀ entry ∈ written, IsPlainName entry.1)
    (values : ∀ entry ∈ written, IsQuotable entry.2) : '>' ∉ attributesText written := by
  intro member
  obtain ⟨⟨name, value⟩, inside, inEntry⟩ := List.mem_flatMap.mp member
  have inParts : '>' ∈ name.toList ∨ '>' ∈ value := by
    simpa using inEntry
  rcases inParts with inName | inValue
  · exact (names _ inside).2.2 inName
  · exact (values _ inside '>' inValue).2.2 rfl

theorem afterLead_append (lead rest : List Char) :
    Text.afterLead lead (lead ++ rest) = some rest := by
  induction lead with
  | nil => rfl
  | cons c lead ih => rw [List.cons_append, Text.afterLead, if_pos rfl, ih]

/-- An element is read back from its text if its names are plain and its values quotable. -/
theorem isElement_of_text {text element : String} {written : List (String × List Char)}
    {body : String} (plain : '>' ∉ element.toList) (names : ∀ entry ∈ written, IsPlainName entry.1)
    (values : ∀ entry ∈ written, IsQuotable entry.2)
    (isText : text.toList =
      ('<' :: element.toList ++ attributesText written) ++
        '>' :: '\n' :: (Text.trimEnd body.toList ++ ("\n</" ++ element ++ ">\n").toList)) :
    IsElement text element
      (written.map fun (name, value) => (name, String.ofList (unescape value))) body
      ('<' :: element.toList ++ attributesText written) (Text.trimEnd body.toList) written where
  cut := by
    rw [isText]
    apply Text.cutAt_append_separator
    rw [List.cons_append, List.mem_cons, List.mem_append, not_or, not_or]
    exact ⟨by decide, plain, greater_not_mem_attributesText names values⟩
  reads := by
    rw [attributes?, afterLead_append, Option.bind_some]
    exact attributesOf?_attributesText names values
  quotable := values
  decodes := rfl
  trimmed := Text.trimEnd_eq_iff.mp rfl

end Markup

namespace Provider.Windsurf

/-- The attributes of a rule as they are written. -/
def ruleAttributes (trigger : String) (globs : List String) : List (String × List Char) :=
  ("trigger", (attributeText trigger).toList) ::
    (if globs = [] then [] else [("globs", (attributeText (",".intercalate globs)).toList)])

theorem mem_ruleAttributes {trigger : String} {globs : List String} {entry : String × List Char}
    (member : entry ∈ ruleAttributes trigger globs) :
    Markup.IsPlainName entry.1 ∧ Markup.IsQuotable entry.2 := by
  have plainTrigger : Markup.IsPlainName "trigger" := ⟨by decide, by decide, by decide⟩
  have plainGlobs : Markup.IsPlainName "globs" := ⟨by decide, by decide, by decide⟩
  have quotable : ∀ text, Markup.IsQuotable (attributeText text).toList := by
    intro text
    rw [Markup.toList_attributeText]
    exact Markup.isQuotable_flatMap text.toList
  rw [ruleAttributes, List.mem_cons] at member
  rcases member with rfl | inGlobs
  · dsimp only
    exact ⟨plainTrigger, quotable trigger⟩
  · split at inGlobs
    · cases inGlobs
    · rw [List.mem_singleton.mp inGlobs]
      dsimp only
      exact ⟨plainGlobs, quotable (",".intercalate globs)⟩

theorem toList_xmlText (trigger : String) (globs : List String) (body : String) :
    (xmlText trigger globs body).toList =
      ('<' :: "rule".toList ++ Markup.attributesText (ruleAttributes trigger globs)) ++
        '>' :: '\n' :: (Text.trimEnd body.toList ++ ("\n</" ++ "rule" ++ ">\n").toList) := by
  unfold xmlText ruleAttributes Markup.attributesText Text.trimmedEnd
  generalize attributeText trigger = trigger
  generalize Text.trimEnd body.toList = inner
  cases globs with
  | nil => simp
  | cons glob rest =>
      generalize attributeText (",".intercalate (glob :: rest)) = patterns
      simp

theorem decoded_ruleAttributes (trigger : String) (globs : List String) :
    (ruleAttributes trigger globs).map
        (fun (name, value) => (name, String.ofList (Markup.unescape value))) =
      ("trigger", trigger) :: (if globs = [] then [] else [("globs", ",".intercalate globs)]) := by
  have decoded : ∀ text,
      String.ofList (Markup.unescape (attributeText text).toList) = text := by
    intro text
    rw [Markup.toList_attributeText, Markup.unescape_flatMap, String.ofList_toList]
  unfold ruleAttributes
  rw [List.map_cons]
  dsimp only
  rw [decoded]
  split
  · rfl
  · rw [List.map_singleton]
    dsimp only
    rw [decoded]

/-- What is compiled with format `xml` is one element: its attributes are the trigger and, where
there are some, the patterns, and its body is that of the rule. -/
theorem compile_xml_isElement {request : WriteRequest} (xml : request.config.format? = some "xml")
    (workspace : Workspace) :
    let document := request.document
    let globs := textList (setting? request.config document "globs")
    let trigger := trigger request.config document globs
    ∃ text tag inner written,
      (provider.compile (provider.compileRequest workspace.files request)).run workspace =
        (.ok [{ target := provider.target workspace.files request, contents := text }],
          workspace) ∧
      Markup.IsElement text "rule"
        (("trigger", trigger) :: (if globs = [] then [] else [("globs", ",".intercalate globs)]))
        document.content tag inner written := by
  intro document globs trigger
  have granted : ensureCapabilities provider.handshake (provider.target workspace.files request) =
      .ok () := by
    apply ensureCapabilities_declared
    intro capability member
    change capability ∈ [formatCapability request.config.format?] at member
    rw [xml] at member
    rw [List.mem_singleton.mp member]
    rfl
  have compiled := isRuleFile.compile_run request workspace
  dsimp only at compiled
  rw [granted] at compiled
  have isText : contents request.config document = xmlText trigger globs document.content :=
    if_pos (decide_eq_true xml)
  have element := Markup.isElement_of_text (by decide)
    (fun entry member => (mem_ruleAttributes member).1)
    (fun entry member => (mem_ruleAttributes member).2)
    (toList_xmlText trigger globs document.content)
  rw [decoded_ruleAttributes, ← isText] at element
  exact ⟨_, _, _, _, compiled, element⟩

/-- A rule whose trigger, patterns and body look like markup themselves. -/
def markupRequest : WriteRequest :=
  let note := noteRequest
    { fields :=
        [("format", .string "xml"), ("globs", .ofStrings ["a<b", "\"c\">"]),
          ("trigger", .string "&lt;&")] }
  { note with document := { note.document with content := "</rule>\n<rule> \n" } }

theorem compile_xml_of_markup :
    markupRequest.config.format? = some "xml" ∧
    ∃ text tag inner written,
      (provider.compile (provider.compileRequest {} markupRequest)).run {} =
        (.ok [{ target := provider.target {} markupRequest, contents := text }], {}) ∧
      Markup.IsElement text "rule" [("trigger", "&lt;&"), ("globs", "a<b,\"c\">")]
        "</rule>\n<rule> \n" tag inner written := by
  have xml : markupRequest.config.format? = some "xml" := by decide
  exact ⟨xml, compile_xml_isElement xml {}⟩

example : xmlText "&lt;&" ["a<b"] "Body \n" =
    "<rule trigger=\"&amp;lt;&amp;\" globs=\"a&lt;b\">\nBody\n</rule>\n" := by decide

end Provider.Windsurf

end RuleCompiler
