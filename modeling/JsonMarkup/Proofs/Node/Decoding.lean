import JsonMarkup.Node.Html
import JsonMarkup.Text.Name

/-!
# Reading markup back

Markup is meant for readers that know tags, attributes between double quotes, text up to the next
`<` and five entities, and nothing of how it came about. `decode` is such a reader, and what it
finds is the normal form of the nodes that were written.

**The normal form** (`normal`). An error is an element in a conspicuous style, the style of an
element is its last attribute, and texts that follow each other are one. No name, text or attribute
is lost but for what stands in a void element.

**Theorem (`decode_toHtmlAll`).** The markup of nodes whose names can be written as they are decodes
to their normal form.

The reader goes through the markup character by character. The invariant `Node.run_toHtml` says
where it is between two nodes: it has read a part of the normal form, and stands in a text that may
go on.
-/

namespace JsonMarkup

open Html

/-! ## Normal forms -/

/-- What markup says. -/
inductive Markup where
  | text (content : String)
  | element (tag : String) (attributes : List (String × String)) (children : List Markup)

namespace Markup

/-- Put a text in front: it joins the text that stands there, and the empty text leaves no trace. -/
def addText (text : String) : List Markup → List Markup
  | .text next :: rest => .text (text ++ next) :: rest
  | rest => if text = "" then rest else .text text :: rest

theorem addText_empty (ms : List Markup) : addText "" ms = ms := by
  cases ms with
  | nil => rfl
  | cons m rest =>
    cases m with
    | text next => rw [addText, String.empty_append]
    | element tag attributes children => rfl

theorem addText_element (text tag : String) (attributes : List (String × String))
    (children rest : List Markup) :
    addText text (.element tag attributes children :: rest) =
      addText text [] ++ .element tag attributes children :: rest := by
  unfold addText
  dsimp only
  split <;> rfl

theorem addText_append (s t : String) (ms : List Markup) :
    addText (s ++ t) ms = addText s (addText t ms) := by
  have joined : t ≠ "" → s ++ t ≠ "" := fun h h' => h (String.append_eq_empty_iff.mp h').2
  cases ms with
  | nil =>
    by_cases h : t = ""
    · simp [addText, h]
    · simp [addText, h]
  | cons m rest =>
    cases m with
    | text next => rw [addText, addText, addText, String.append_assoc]
    | element tag attributes children =>
      by_cases h : t = ""
      · simp [addText, h]
      · simp [addText, h]

end Markup

open Markup

/-- The attributes of an element as they are shown: its style is the last of them. -/
def shownAttributes (attributes : Fields String) (style : Style) : List (String × String) :=
  attributes.toList ++ if style.isEmpty then [] else [("style", style.toCss)]

mutual

/-- The normal form of a node in front of what comes after it. -/
def Node.normalBefore (rest : List Markup) : Node → List Markup
  | .text content => addText content rest
  | .error message =>
    .element "div" [("style", "color: yellow; background: red; font-weight: bold")]
      (addText message []) :: rest
  | .element tag attributes style children =>
    .element tag (shownAttributes attributes style)
      (if isVoid tag then [] else normal children) :: rest

/-- The normal form of a list of nodes. -/
def normal : List Node → List Markup
  | [] => []
  | n :: rest => n.normalBefore (normal rest)

end

mutual

/-- The tags and the names of attributes at and below a node can be written as they are. -/
def Node.WellNamed : Node → Prop
  | .text _ | .error _ => True
  | .element tag attributes _ children =>
    Text.isName tag = true ∧ (∀ name ∈ attributes.names, Text.isName name = true) ∧
      AllWellNamed children

/-- The names at and below each of several siblings can be written as they are. -/
def AllWellNamed : List Node → Prop
  | [] => True
  | n :: rest => n.WellNamed ∧ AllWellNamed rest

end

/-! ## The reader -/

/-- Undo escaping; an ampersand that begins no entity is refused. -/
def unescape : List Char → Option (List Char)
  | [] => some []
  | '&' :: 'a' :: 'm' :: 'p' :: ';' :: rest => (unescape rest).map ('&' :: ·)
  | '&' :: 'l' :: 't' :: ';' :: rest => (unescape rest).map ('<' :: ·)
  | '&' :: 'g' :: 't' :: ';' :: rest => (unescape rest).map ('>' :: ·)
  | '&' :: 'q' :: 'u' :: 'o' :: 't' :: ';' :: rest => (unescape rest).map ('"' :: ·)
  | '&' :: '#' :: '3' :: '9' :: ';' :: rest => (unescape rest).map ('\'' :: ·)
  | '&' :: _ => none
  | c :: rest => (unescape rest).map (c :: ·)

/-- Where a reader stands between two characters. -/
inductive Mode where
  | text (raw : List Char)
  | opened
  | tagName (name : List Char)
  /-- Behind the name or an attribute of a start tag. -/
  | tag (tag : String) (attributes : List (String × String))
  | name (tag : String) (attributes : List (String × String)) (name : List Char)
  | equals (tag : String) (attributes : List (String × String)) (name : String)
  | value (tag : String) (attributes : List (String × String)) (name : String) (raw : List Char)
  | endTag (name : List Char)

/-- A reader of markup between two characters. -/
structure Reader where
  /-- The elements that are open, innermost first, each with what stands in front of it. -/
  outer : List (String × List (String × String) × List Markup)
  /-- What has been read of the content of the innermost one. -/
  inner : List Markup
  mode : Mode

namespace Reader

/-- Take the end of a start tag. A void element ends with it. -/
def enter (r : Reader) (tag : String) (attributes : List (String × String)) : Reader :=
  if isVoid tag then ⟨r.outer, r.inner ++ [.element tag attributes []], .text []⟩
  else ⟨(tag, attributes, r.inner) :: r.outer, [], .text []⟩

/-- Take the end of an end tag, which has to name the innermost element. -/
def leave (r : Reader) (name : String) : Option Reader :=
  match r.outer with
  | [] => none
  | (tag, attributes, before) :: outer =>
    if name = tag then some ⟨outer, before ++ [.element tag attributes r.inner], .text []⟩
    else none

def advance (r : Reader) (c : Char) : Option Reader :=
  match r.mode with
  | .text raw =>
    -- The text is complete; only now can its entities be undone.
    if c = '<' then
      (unescape raw).map fun text =>
        ⟨r.outer, r.inner ++ addText (String.ofList text) [], .opened⟩
    else some { r with mode := .text (raw ++ [c]) }
  | .opened =>
    if c = '/' then some { r with mode := .endTag [] } else some { r with mode := .tagName [c] }
  | .tagName name =>
    if c = ' ' then some { r with mode := .name (String.ofList name) [] [] }
    else if c = '>' then some (r.enter (String.ofList name) [])
    else some { r with mode := .tagName (name ++ [c]) }
  | .tag tag attributes =>
    if c = ' ' then some { r with mode := .name tag attributes [] }
    else if c = '>' then some (r.enter tag attributes)
    else none
  | .name tag attributes name =>
    if c = '=' then some { r with mode := .equals tag attributes (String.ofList name) }
    else some { r with mode := .name tag attributes (name ++ [c]) }
  | .equals tag attributes name =>
    if c = '"' then some { r with mode := .value tag attributes name [] } else none
  | .value tag attributes name raw =>
    if c = '"' then
      (unescape raw).map fun value =>
        { r with mode := .tag tag (attributes ++ [(name, String.ofList value)]) }
    else some { r with mode := .value tag attributes name (raw ++ [c]) }
  | .endTag name =>
    if c = '>' then r.leave (String.ofList name)
    else some { r with mode := .endTag (name ++ [c]) }

/-- What has been read, if markup may end here. -/
def finish (r : Reader) : Option (List Markup) :=
  match r.outer, r.mode with
  | [], .text raw => (unescape raw).map fun text => r.inner ++ addText (String.ofList text) []
  | _, _ => none

def run (r : Reader) (cs : List Char) : Option Reader := cs.foldlM advance r

end Reader

/-- What markup says. A text that is not markup, as one with an end tag too many, says nothing. -/
def decode (markup : String) : Option (List Markup) :=
  (Reader.run ⟨[], [], .text []⟩ markup.toList).bind Reader.finish

/-! ## Escaping -/

theorem unescape_cons {c : Char} (h : c ≠ '&') (rest : List Char) :
    unescape (c :: rest) = (unescape rest).map (c :: ·) := by
  rw [unescape]
  all_goals simp_all

def escapedChars : List Char := ['&', '<', '>', '"', '\'']

theorem escapeChar_of_not_mem {c : Char} (h : c ∉ escapedChars) : escapeChar c = [c] := by
  simp only [escapedChars, List.mem_cons, List.not_mem_nil, or_false, not_or] at h
  obtain ⟨amp, lt, gt, quot, apos⟩ := h
  rw [escapeChar, if_neg amp, if_neg lt, if_neg gt, if_neg quot, if_neg apos]

theorem forall_mem_escapedChars {p : Char → Prop} :
    (∀ c ∈ escapedChars, p c) ↔ p '&' ∧ p '<' ∧ p '>' ∧ p '"' ∧ p '\'' := by
  simp [escapedChars]

theorem unescape_escapeChar (c : Char) (rest : List Char) :
    unescape (escapeChar c ++ rest) = (unescape rest).map (c :: ·) := by
  by_cases h : c ∈ escapedChars
  · revert c
    rw [forall_mem_escapedChars]
    exact ⟨rfl, rfl, rfl, rfl, rfl⟩
  · rw [escapeChar_of_not_mem h]
    exact unescape_cons (fun amp => h (by simp [amp, escapedChars])) rest

theorem toList_escape (s : String) : (escape s).toList = s.toList.flatMap escapeChar :=
  String.toList_ofList

theorem unescape_escape (s : String) : unescape (escape s).toList = some s.toList := by
  rw [toList_escape]
  induction s.toList with
  | nil => rfl
  | cons c cs ih => rw [List.flatMap_cons, unescape_escapeChar, ih, Option.map_some]

theorem escape_append (s t : String) : escape (s ++ t) = escape s ++ escape t := by
  rw [← String.toList_inj]
  simp [toList_escape]

/-- The character neither opens a tag nor ends the value of an attribute. -/
def isPlain (c : Char) : Bool := c != '<' && c != '"'

theorem isPlain_of_mem_escapeChar {c d : Char} (h : d ∈ escapeChar c) : isPlain d = true := by
  suffices all : (escapeChar c).all isPlain = true from List.all_eq_true.mp all d h
  clear h
  by_cases h : c ∈ escapedChars
  · revert c
    rw [forall_mem_escapedChars]
    exact ⟨rfl, rfl, rfl, rfl, rfl⟩
  · rw [escapeChar_of_not_mem h]
    simp only [escapedChars, List.mem_cons, not_or] at h
    simp [isPlain, h.2.1, h.2.2.2.1]

/-- No bracket that opens a tag and no quote is left by escaping. -/
theorem ne_of_mem_escape {s : String} {c : Char} (h : c ∈ (escape s).toList) :
    c ≠ '<' ∧ c ≠ '"' := by
  rw [toList_escape] at h
  obtain ⟨d, -, hc⟩ := List.mem_flatMap.mp h
  simpa [isPlain] using isPlain_of_mem_escapeChar hc

/-! ## Names -/

/-- No character of a name means something in markup. -/
theorem ne_of_isNameChar {c : Char} (h : Text.isNameChar c = true) :
    c ≠ ' ' ∧ c ≠ '=' ∧ c ≠ '>' ∧ c ≠ '/' := by
  refine ⟨?_, ?_, ?_, ?_⟩
  all_goals
    rintro rfl
    revert h
    decide

theorem isNameChar_of_isNameStart {c : Char} (h : Text.isNameStart c = true) :
    Text.isNameChar c = true := by
  simp only [Text.isNameStart, Bool.or_eq_true] at h
  simp only [Text.isNameChar, Text.isAlphanumeric, Bool.or_eq_true]
  rcases h with (h | h) | h
  · simp [h]
  · simp [h]
  · simp [h]

theorem isNameChar_of_mem {name : String} (h : Text.isName name = true) {c : Char}
    (hc : c ∈ name.toList) : Text.isNameChar c = true := by
  rw [Text.isName] at h
  cases hcs : name.toList with
  | nil =>
    rw [hcs] at hc
    cases hc
  | cons d ds =>
    rw [hcs, Text.isNameChars, Bool.and_eq_true] at h
    rw [hcs] at hc
    rcases List.mem_cons.mp hc with rfl | hc
    · exact isNameChar_of_isNameStart h.1
    · exact List.all_eq_true.mp h.2 c hc

theorem exists_cons_of_isName {name : String} (h : Text.isName name = true) :
    ∃ c cs, name.toList = c :: cs := by
  cases hcs : name.toList with
  | nil => simp [Text.isName, hcs, Text.isNameChars] at h
  | cons c cs => exact ⟨c, cs, rfl⟩

/-! ## Runs -/

namespace Reader

theorem run_append (r : Reader) (cs ds : List Char) :
    r.run (cs ++ ds) = (r.run cs).bind (·.run ds) := List.foldlM_append

theorem run_cons (r : Reader) (c : Char) (cs : List Char) :
    r.run (c :: cs) = (r.advance c).bind (·.run cs) := List.foldlM_cons

variable {outer : List (String × List (String × String) × List Markup)} {inner : List Markup}

/-- Characters that the reader keeps are kept one after the other. -/
theorem run_keep (mode : List Char → Mode) {cs : List Char}
    (h : ∀ c ∈ cs, ∀ kept, advance ⟨outer, inner, mode kept⟩ c =
      some ⟨outer, inner, mode (kept ++ [c])⟩) (kept : List Char) :
    run ⟨outer, inner, mode kept⟩ cs = some ⟨outer, inner, mode (kept ++ cs)⟩ := by
  induction cs generalizing kept with
  | nil => rw [List.append_nil]; rfl
  | cons c cs ih =>
    rw [run_cons, h c List.mem_cons_self, Option.bind_some,
      ih (fun d hd => h d (List.mem_cons_of_mem _ hd)), List.append_assoc]
    rfl

theorem run_text (kept : List Char) (s : String) :
    run ⟨outer, inner, .text kept⟩ (escape s).toList =
      some ⟨outer, inner, .text (kept ++ (escape s).toList)⟩ :=
  run_keep .text (fun _ hc _ => if_neg (ne_of_mem_escape hc).1) kept

theorem advance_text (text : String) : advance ⟨outer, inner, .text (escape text).toList⟩ '<' =
    some ⟨outer, inner ++ addText text [], .opened⟩ := by
  have ended : ∀ raw, advance ⟨outer, inner, .text raw⟩ '<' = (unescape raw).map fun text =>
      ⟨outer, inner ++ addText (String.ofList text) [], .opened⟩ := fun _ => rfl
  rw [ended, unescape_escape, Option.map_some, String.ofList_toList]

variable {tag : String} {attributes : List (String × String)}

/-- The name of an attribute is kept up to the equals sign. -/
theorem run_name {name : String} (h : Text.isName name = true) (cs : List Char) :
    run ⟨outer, inner, .name tag attributes []⟩ (name.toList ++ '=' :: cs) =
      run ⟨outer, inner, .equals tag attributes name⟩ cs := by
  have plain : ∀ c ∈ name.toList, c ≠ '=' :=
    fun c hc => (ne_of_isNameChar (isNameChar_of_mem h hc)).2.1
  have ended : ∀ kept, advance ⟨outer, inner, .name tag attributes kept⟩ '=' =
      some ⟨outer, inner, .equals tag attributes (String.ofList kept)⟩ := fun _ => rfl
  rw [run_append, run_keep (.name tag attributes) (fun c hc _ => if_neg (plain c hc)),
    Option.bind_some, run_cons, List.nil_append, ended, Option.bind_some, String.ofList_toList]

/-- The value of an attribute is kept up to the quote. -/
theorem run_value {name : String} (value : String) (cs : List Char) :
    run ⟨outer, inner, .value tag attributes name []⟩ ((escape value).toList ++ '"' :: cs) =
      run ⟨outer, inner, .tag tag (attributes ++ [(name, value)])⟩ cs := by
  have ended : ∀ raw, advance ⟨outer, inner, .value tag attributes name raw⟩ '"' =
      (unescape raw).map fun value =>
        ⟨outer, inner, .tag tag (attributes ++ [(name, String.ofList value)])⟩ := fun _ => rfl
  rw [run_append, run_keep (.value tag attributes name)
    (fun d hd _ => if_neg (ne_of_mem_escape hd).2), Option.bind_some, run_cons, List.nil_append,
    ended, unescape_escape, Option.map_some, Option.bind_some, String.ofList_toList]

theorem toList_namedValue (name value : String) :
    (namedValue name value).toList =
      ' ' :: (name.toList ++ '=' :: '"' :: ((escape value).toList ++ ['"'])) := by
  simp [namedValue]

theorem run_namedValue {name : String} (h : Text.isName name = true) (value : String)
    (cs : List Char) :
    run ⟨outer, inner, .tag tag attributes⟩ ((namedValue name value).toList ++ cs) =
      run ⟨outer, inner, .tag tag (attributes ++ [(name, value)])⟩ cs := by
  have begun : advance ⟨outer, inner, .tag tag attributes⟩ ' ' =
      some ⟨outer, inner, .name tag attributes []⟩ := rfl
  have quoted : advance ⟨outer, inner, .equals tag attributes name⟩ '"' =
      some ⟨outer, inner, .value tag attributes name []⟩ := rfl
  rw [toList_namedValue]
  simp only [List.cons_append, List.append_assoc, List.nil_append]
  rw [run_cons, begun, Option.bind_some, run_name h, run_cons, quoted, Option.bind_some, run_value]

/-- Attributes are read back one after the other, up to the end of the start tag. -/
theorem run_attributes {more : List (String × String)}
    (h : ∀ a ∈ more, Text.isName a.1 = true) (cs : List Char) :
    run ⟨outer, inner, .tag tag attributes⟩
        (more.flatMap (fun a => (namedValue a.1 a.2).toList) ++ '>' :: cs) =
      run (enter ⟨outer, inner, .opened⟩ tag (attributes ++ more)) cs := by
  induction more generalizing attributes with
  | nil => rw [List.append_nil]; rfl
  | cons a more ih =>
    rw [List.flatMap_cons, List.append_assoc, run_namedValue (h a List.mem_cons_self),
      ih fun b hb => h b (List.mem_cons_of_mem _ hb), List.append_assoc]
    rfl

/-- The name of a start tag ends where its attributes begin. -/
theorem run_tagName (name : List Char) (attributes : List (String × String)) (cs : List Char) :
    run ⟨outer, inner, .tagName name⟩
        (attributes.flatMap (fun a => (namedValue a.1 a.2).toList) ++ '>' :: cs) =
      run ⟨outer, inner, .tag (String.ofList name) []⟩
        (attributes.flatMap (fun a => (namedValue a.1 a.2).toList) ++ '>' :: cs) := by
  cases attributes with
  | nil => rfl
  | cons a more =>
    rw [List.flatMap_cons, toList_namedValue]
    rfl

/-- A start tag opens its element behind the text in front of it. -/
theorem run_startTag (htag : Text.isName tag = true) (h : ∀ a ∈ attributes, Text.isName a.1 = true)
    (text : String) (cs : List Char) :
    run ⟨outer, inner, .text (escape text).toList⟩
        ('<' :: (tag.toList ++
          (attributes.flatMap (fun a => (namedValue a.1 a.2).toList) ++ '>' :: cs))) =
      run (enter ⟨outer, inner ++ addText text [], .opened⟩ tag attributes) cs := by
  obtain ⟨c, rest, hname⟩ := exists_cons_of_isName htag
  have plain : ∀ d ∈ c :: rest, d ≠ ' ' ∧ d ≠ '=' ∧ d ≠ '>' ∧ d ≠ '/' := by
    rw [← hname]
    exact fun d hd => ne_of_isNameChar (isNameChar_of_mem htag hd)
  -- The first character tells a start tag from an end tag.
  have first : advance ⟨outer, inner ++ addText text [], .opened⟩ c =
      some ⟨outer, inner ++ addText text [], .tagName [c]⟩ :=
    if_neg (plain c List.mem_cons_self).2.2.2
  have kept : run ⟨outer, inner ++ addText text [], .tagName [c]⟩ rest =
      some ⟨outer, inner ++ addText text [], .tagName ([c] ++ rest)⟩ := by
    refine run_keep .tagName (fun d hd _ => ?_) [c]
    obtain ⟨blank, -, bracket, -⟩ := plain d (List.mem_cons_of_mem c hd)
    exact (if_neg blank).trans (if_neg bracket)
  rw [run_cons, advance_text, Option.bind_some, hname, List.cons_append, run_cons, first,
    Option.bind_some, run_append, kept, Option.bind_some, List.singleton_append, ← hname,
    run_tagName, String.ofList_toList, run_attributes h]
  rfl

/-- An end tag closes its element behind the text in front of it. -/
theorem run_endTag {before : List Markup} (htag : Text.isName tag = true) (text : String) :
    run ⟨(tag, attributes, before) :: outer, inner, .text (escape text).toList⟩
        ('<' :: '/' :: (tag.toList ++ ['>'])) =
      some ⟨outer, before ++ [.element tag attributes (inner ++ addText text [])], .text []⟩ := by
  have plain : ∀ d ∈ tag.toList, d ≠ '>' :=
    fun d hd => (ne_of_isNameChar (isNameChar_of_mem htag hd)).2.2.1
  rw [run_cons, advance_text, Option.bind_some, run_cons]
  show run ⟨_, _, .endTag []⟩ _ = _
  rw [run_append, run_keep .endTag (fun d hd _ => if_neg (plain d hd)), Option.bind_some]
  have closed : advance ⟨(tag, attributes, before) :: outer, inner ++ addText text [],
      .endTag tag.toList⟩ '>' =
      some ⟨outer, before ++ [.element tag attributes (inner ++ addText text [])], .text []⟩ :=
    if_pos String.ofList_toList
  rw [List.nil_append, run_cons, closed]
  rfl

end Reader

/-! ## Whole nodes -/

theorem toList_startTag (tag : String) (attributes : Fields String) (style : Style) :
    (Node.startTag tag attributes style).toList =
      '<' :: (tag.toList ++ ((shownAttributes attributes style).flatMap
        (fun a => (namedValue a.1 a.2).toList) ++ ['>'])) := by
  unfold Node.startTag shownAttributes
  cases style.isEmpty with
  | true => simp [String.toList_join, List.flatMap_map]
  | false => simp [String.toList_join, List.flatMap_map]

theorem toList_toHtml_element {tag : String} {attributes : Fields String} {style : Style}
    {children : List Node} (notVoid : isVoid tag = false) :
    (Node.element tag attributes style children).toHtml.toList =
      '<' :: (tag.toList ++ ((shownAttributes attributes style).flatMap
        (fun a => (namedValue a.1 a.2).toList) ++
          '>' :: ((String.join (Node.toHtmlAll children)).toList ++
            '<' :: '/' :: (tag.toList ++ ['>'])))) := by
  simp [Node.toHtml, notVoid, toList_startTag]

theorem toList_toHtml_error (message : String) :
    (Node.error message).toHtml.toList =
      '<' :: ("div".toList ++ ([("style", errorCss)].flatMap
        (fun a => (namedValue a.1 a.2).toList) ++
          '>' :: ((escape message).toList ++ '<' :: '/' :: ("div".toList ++ ['>'])))) := by
  simp [Node.toHtml, Node.errorTag]

theorem errorCss_eq : errorCss = "color: yellow; background: red; font-weight: bold" := by decide

theorem isName_of_shown {attributes : Fields String} {style : Style}
    (h : ∀ name ∈ attributes.names, Text.isName name = true) :
    ∀ a ∈ shownAttributes attributes style, Text.isName a.1 = true := by
  intro a ha
  rcases List.mem_append.mp ha with ha | ha
  · exact h a.1 (List.mem_map_of_mem ha)
  · split at ha
    · cases ha
    · rw [List.mem_singleton.mp ha]
      show Text.isName "style" = true
      decide

/-- Reading an element: its start tag, its content and its end tag. -/
theorem Reader.run_element {outer : List (String × List (String × String) × List Markup)}
    {inner content : List Markup} {tag : String} {attributes : List (String × String)}
    {cs : List Char} {last : String} (htag : Text.isName tag = true)
    (notVoid : isVoid tag = false) (h : ∀ a ∈ attributes, Text.isName a.1 = true) (text : String)
    (hcs : run ⟨(tag, attributes, inner ++ addText text []) :: outer, [], .text []⟩ cs =
      some ⟨(tag, attributes, inner ++ addText text []) :: outer, content,
        .text (escape last).toList⟩) :
    run ⟨outer, inner, .text (escape text).toList⟩
        ('<' :: (tag.toList ++ (attributes.flatMap (fun a => (namedValue a.1 a.2).toList) ++
          '>' :: (cs ++ '<' :: '/' :: (tag.toList ++ ['>']))))) =
      some ⟨outer, inner ++ addText text [] ++
        [.element tag attributes (content ++ addText last [])], .text []⟩ := by
  have entered : enter ⟨outer, inner ++ addText text [], .opened⟩ tag attributes =
      ⟨(tag, attributes, inner ++ addText text []) :: outer, [], .text []⟩ := by
    rw [enter, notVoid]
    rfl
  rw [run_startTag htag h, entered, run_append, hcs, Option.bind_some, run_endTag htag]

mutual

/-- The reader of a node stands in a text that may go on. What it has read, with this text in front
of what comes next, is the normal form of the node with the text before it. -/
theorem run_toHtml (outer : List (String × List (String × String) × List Markup))
    (inner : List Markup) (text : String) : ∀ {n : Node}, n.WellNamed →
    ∃ (read : List Markup) (last : String),
      Reader.run ⟨outer, inner, .text (escape text).toList⟩ n.toHtml.toList =
        some ⟨outer, inner ++ read, .text (escape last).toList⟩ ∧
      ∀ rest, read ++ addText last rest = addText text (n.normalBefore rest)
  | .text content, _ => by
    refine ⟨[], text ++ content, ?_, fun rest => ?_⟩
    · rw [Node.toHtml, Reader.run_text, escape_append, String.toList_append, List.append_nil]
    · rw [Node.normalBefore, List.nil_append, addText_append]
  | .error message, _ => by
    have content := @Reader.run_text
      (("div", [("style", errorCss)], inner ++ addText text []) :: outer) [] [] message
    rw [List.nil_append] at content
    refine ⟨addText text [] ++ [.element "div" [("style", errorCss)] (addText message [])], "",
      ?_, fun rest => ?_⟩
    · rw [toList_toHtml_error, Reader.run_element (by decide) (by decide +kernel) (by decide) text
        content, List.append_assoc, List.nil_append]
      rfl
    · rw [addText_empty, Node.normalBefore, addText_element, errorCss_eq, List.append_assoc]
      rfl
  | .element tag attributes style children, ⟨htag, hattributes, hchildren⟩ => by
    have hshown : ∀ a ∈ shownAttributes attributes style, Text.isName a.1 = true :=
      isName_of_shown hattributes
    cases void : isVoid tag with
    | true =>
      -- Its start tag is all there is, and the content has no normal form either.
      refine ⟨addText text [] ++ [.element tag (shownAttributes attributes style) []], "",
        ?_, fun rest => ?_⟩
      · have entered : Reader.enter ⟨outer, inner ++ addText text [], .opened⟩ tag
            (shownAttributes attributes style) = ⟨outer, inner ++ addText text [] ++
              [.element tag (shownAttributes attributes style) []], .text []⟩ := by
          rw [Reader.enter, void]
          rfl
        rw [Node.toHtml, void, if_pos rfl, toList_startTag, Reader.run_startTag htag hshown,
          entered, List.append_assoc]
        rfl
      · rw [addText_empty, Node.normalBefore, addText_element, void, List.append_assoc]
        rfl
    | false =>
      -- The content is read in an element of its own, behind no text.
      obtain ⟨read, last, hrun, hread⟩ := run_toHtmlAll
        ((tag, shownAttributes attributes style, inner ++ addText text []) :: outer) [] "" hchildren
      refine ⟨addText text [] ++ [.element tag (shownAttributes attributes style)
        (read ++ addText last [])], "", ?_, fun rest => ?_⟩
      · rw [toList_toHtml_element void, Reader.run_element htag void hshown text hrun,
          List.append_assoc, List.nil_append]
        rfl
      · rw [hread, addText_empty, addText_empty, Node.normalBefore, addText_element, void,
          List.append_assoc]
        rfl
termination_by structural n => n

theorem run_toHtmlAll (outer : List (String × List (String × String) × List Markup))
    (inner : List Markup) (text : String) : ∀ {nodes : List Node}, AllWellNamed nodes →
    ∃ (read : List Markup) (last : String),
      Reader.run ⟨outer, inner, .text (escape text).toList⟩
          (String.join (Node.toHtmlAll nodes)).toList =
        some ⟨outer, inner ++ read, .text (escape last).toList⟩ ∧
      read ++ addText last [] = addText text (normal nodes)
  | [], _ => ⟨[], text, by rw [List.append_nil]; rfl, rfl⟩
  | n :: rest, ⟨hn, hrest⟩ => by
    obtain ⟨first, between, hfirst, hnormal⟩ := run_toHtml outer inner text hn
    obtain ⟨more, last, hmore, hread⟩ := run_toHtmlAll outer (inner ++ first) between hrest
    refine ⟨first ++ more, last, ?_, ?_⟩
    · rw [Node.toHtmlAll, String.join_cons, String.toList_append, Reader.run_append, hfirst,
        Option.bind_some, hmore, List.append_assoc]
    · rw [List.append_assoc, hread, hnormal, normal]
termination_by structural nodes => nodes

end

/-- **Markup decodes to the normal form** of nodes whose names can be written as they are. -/
theorem decode_toHtmlAll {nodes : List Node} (h : AllWellNamed nodes) :
    decode (String.join (Node.toHtmlAll nodes)) = some (normal nodes) := by
  obtain ⟨read, last, hrun, hread⟩ := run_toHtmlAll [] [] "" h
  have start : Reader.run ⟨[], [], .text []⟩ (String.join (Node.toHtmlAll nodes)).toList =
      some ⟨[], [] ++ read, .text (escape last).toList⟩ := hrun
  rw [decode, start, Option.bind_some, Reader.finish]
  dsimp only
  rw [unescape_escape, Option.map_some, String.ofList_toList, List.nil_append, hread, addText_empty]

end JsonMarkup
