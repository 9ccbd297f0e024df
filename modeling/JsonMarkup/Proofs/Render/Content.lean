import JsonMarkup.Proofs.Fields
import JsonMarkup.Proofs.Render.Entry

/-!
# The content of a mapping in closed form

The entries of a mapping change one element in order: a text takes away the children so far, raw
style takes away the properties so far, a name that is set again keeps its place, and an attribute
that fails takes away the whole element, while a child that fails is a node like any other. What
comes of it can be read off the list of entries.

**Theorem (`renders_mapping`).** A tag whose value is a mapping renders to the error of its first
attribute that cannot be used. If there is none, it renders to an element whose attributes, style
and children are read off the list of entries.

The proof goes through the entries from the end (`amountsTo_foldl`): `AmountsTo` says what the
entries so far amount to, and each entry changes that as it changes the element.
-/

namespace JsonMarkup.Render

/-! ## What the entries amount to -/

namespace Part

/-- The text, if the part is one. -/
def text? : Part → Option String
  | .text content => some content
  | _ => none

/-- The raw style, if the part is some. -/
def rawStyle? : Part → Option String
  | .rawStyle css => some css
  | _ => none

def changeList : Part → List Change
  | .changes cs => cs
  | _ => []

/-- The attribute, if the part is one. -/
def named? : Part → Option (String × String)
  | .named name value => some (name, value)
  | _ => none

/-- The child, if the part is one. -/
def child? : Part → Option (String × Source)
  | .child tag value => some (tag, value)
  | _ => none

end Part

/-- The properties that are set, without those that are removed again later. -/
def lasting : List Change → List (String × String)
  | [] => []
  | (name, some value) :: later =>
    if (name, none) ∈ later then lasting later else (name, value) :: lasting later
  | (_, none) :: later => lasting later

/-- The attributes, in order, those that are overwritten later included. -/
def attributesOf (parts : List Part) : List (String × String) := parts.filterMap (·.named?)

def rawStyleOf (parts : List Part) : Option String := (parts.filterMap (·.rawStyle?)).getLast?

/-- The changes of properties after the last raw style. -/
def changesOf (parts : List Part) : List Change :=
  (parts.rtakeWhile (·.rawStyle?.isNone)).flatMap (·.changeList)

def textOf (parts : List Part) : Option String := (parts.filterMap (·.text?)).getLast?

def childrenOf (parts : List Part) : List (String × Source) :=
  (parts.rtakeWhile (·.text?.isNone)).filterMap (·.child?)

/-- A text as nodes; the empty text is none. -/
def textNodes : Option String → List Node
  | none => []
  | some text => if text = "" then [] else [.text text]

/-! ## The closed form -/

variable {policy : Policy} {depth : Nat}

theorem lasting_concat_set (cs : List Change) (name value : String) :
    lasting (cs ++ [(name, some value)]) = lasting cs ++ [(name, value)] := by
  induction cs with
  | nil => rfl
  | cons c later ih =>
    obtain ⟨n, change⟩ := c
    cases change with
    | none => exact ih
    | some v =>
      rw [List.cons_append, lasting, lasting, ih]
      by_cases h : (n, none) ∈ later
      · simp [h]
      · simp [h]

theorem lasting_concat_remove (cs : List Change) (name : String) :
    lasting (cs ++ [(name, none)]) = (lasting cs).filter (·.1 != name) := by
  induction cs with
  | nil => rfl
  | cons c later ih =>
    obtain ⟨n, change⟩ := c
    cases change with
    | none => exact ih
    | some v =>
      rw [List.cons_append, lasting, lasting, ih]
      by_cases h : (n, none) ∈ later
      · simp [h]
      · by_cases hn : n = name
        · subst hn
          simp [h]
        · simp [h, hn]

/-- Changed properties are those that are set and not removed again later. -/
theorem lists_changed {style : Style} {cs : List Change} (h : style.properties.Lists (lasting cs))
    (more : List Change) : (more.foldl changed style).properties.Lists (lasting (cs ++ more)) := by
  induction more generalizing style cs with
  | nil => rwa [List.append_nil]
  | cons c more ih =>
    rw [← List.singleton_append, ← List.append_assoc]
    refine ih ?_
    obtain ⟨name, change⟩ := c
    cases change with
    | none =>
      rw [lasting_concat_remove]
      exact h.erase name
    | some value =>
      rw [lasting_concat_set]
      exact h.set name value

theorem text_changed (style : Style) (cs : List Change) :
    (cs.foldl changed style).text = style.text := by
  induction cs generalizing style with
  | nil => rfl
  | cons c cs ih =>
    rw [List.foldl_cons, ih]
    obtain ⟨name, change⟩ := c
    cases change with
    | none => rfl
    | some value => rfl

variable {parts : List Part} {part : Part}

theorem attributesOf_skip (h : part.named? = none) :
    attributesOf (parts ++ [part]) = attributesOf parts := by
  simp [attributesOf, h]

theorem attributesOf_named (name value : String) :
    attributesOf (parts ++ [.named name value]) = attributesOf parts ++ [(name, value)] := by
  simp [attributesOf, Part.named?]

theorem rawStyleOf_skip (h : part.rawStyle? = none) :
    rawStyleOf (parts ++ [part]) = rawStyleOf parts := by
  simp [rawStyleOf, h]

theorem rawStyleOf_rawStyle (css : String) :
    rawStyleOf (parts ++ [.rawStyle css]) = some css := by
  simp [rawStyleOf, Part.rawStyle?]

/-- Changes of properties add up until raw style takes them away. -/
theorem changesOf_concat (h : part.rawStyle? = none) :
    changesOf (parts ++ [part]) = changesOf parts ++ part.changeList := by
  rw [changesOf, List.rtakeWhile_concat_pos _ _ _ (by rw [h]; rfl), List.flatMap_append,
    List.flatMap_singleton, changesOf]

theorem changesOf_skip (h : part.rawStyle? = none) (none : part.changeList = []) :
    changesOf (parts ++ [part]) = changesOf parts := by
  rw [changesOf_concat h, none, List.append_nil]

theorem changesOf_rawStyle (css : String) : changesOf (parts ++ [.rawStyle css]) = [] := by
  rw [changesOf, List.rtakeWhile_concat_neg _ _ _ (by simp [Part.rawStyle?]), List.flatMap_nil]

/-- The nodes of a text and of the children after it. -/
def nodesOf (policy : Policy) (depth : Nat) (parts : List Part) : List Node :=
  textNodes (textOf parts) ++ (childrenOf parts).map fun c => tagNode policy depth c.1 c.2

theorem nodesOf_text (content : String) :
    nodesOf policy depth (parts ++ [.text content]) = textNodes (some content) := by
  have children : childrenOf (parts ++ [.text content]) = [] := by
    rw [childrenOf, List.rtakeWhile_concat_neg _ _ _ (by simp [Part.text?]), List.filterMap_nil]
  rw [nodesOf, children, textOf]
  simp [Part.text?]

/-- Children add up until a text takes them away. -/
theorem nodesOf_concat (h : part.text? = none) :
    nodesOf policy depth (parts ++ [part]) =
      nodesOf policy depth parts ++
        part.child?.toList.map fun c => tagNode policy depth c.1 c.2 := by
  have text : textOf (parts ++ [part]) = textOf parts := by simp [textOf, h]
  have children : childrenOf (parts ++ [part]) = childrenOf parts ++ part.child?.toList := by
    rw [childrenOf, List.rtakeWhile_concat_pos _ _ _ (by rw [h]; rfl), List.filterMap_append,
      childrenOf]
    cases hc : part.child? <;> simp [hc]
  rw [nodesOf, text, children, List.map_append, ← List.append_assoc, nodesOf]

theorem nodesOf_skip (h : part.text? = none) (none : part.child? = none) :
    nodesOf policy depth (parts ++ [part]) = nodesOf policy depth parts := by
  rw [nodesOf_concat h, none, Option.toList_none, List.map_nil, List.append_nil]

/-- An element is what the parts amount to. -/
structure AmountsTo (policy : Policy) (depth : Nat) (tag : String) (parts : List Part)
    (e : Element) : Prop where
  tag : e.tag = tag
  attributes : e.attributes.Lists (attributesOf parts)
  rawStyle : e.style.text = rawStyleOf parts
  properties : e.style.properties.Lists (lasting (changesOf parts))
  children : e.children.toList = nodesOf policy depth parts

variable {tag : String} {e : Element}

theorem AmountsTo.new : AmountsTo policy depth tag [] (Element.new tag) where
  tag := rfl
  attributes := .empty
  rawStyle := rfl
  properties := .empty
  children := rfl

/-- One more part changes what the parts amount to as it changes the element. -/
theorem AmountsTo.apply (h : AmountsTo policy depth tag parts e) (part : Part) :
    AmountsTo policy depth tag (parts ++ [part]) (part.apply policy depth e) := by
  obtain ⟨same, attributes, rawStyle, properties, children⟩ := h
  cases part with
  | text content =>
    -- The children so far are gone.
    refine ⟨same, ?_, ?_, ?_, ?_⟩
    · rw [attributesOf_skip rfl]
      exact attributes
    · rw [rawStyleOf_skip rfl]
      exact rawStyle
    · rw [changesOf_skip rfl rfl]
      exact properties
    · rw [nodesOf_text, textNodes]
      show (if content = "" then #[] else #[Node.text content]).toList = _
      split <;> rfl
  | rawStyle css =>
    -- The properties so far are gone.
    refine ⟨same, ?_, ?_, ?_, ?_⟩
    · rw [attributesOf_skip rfl]
      exact attributes
    · rw [rawStyleOf_rawStyle]
      rfl
    · rw [changesOf_rawStyle]
      exact .empty
    · rw [nodesOf_skip rfl rfl]
      exact children
  | changes cs =>
    refine ⟨same, ?_, ?_, ?_, ?_⟩
    · rw [attributesOf_skip rfl]
      exact attributes
    · rw [rawStyleOf_skip rfl]
      exact (text_changed e.style cs).trans rawStyle
    · rw [changesOf_concat rfl]
      exact lists_changed properties cs
    · rw [nodesOf_skip rfl rfl]
      exact children
  | named name value =>
    refine ⟨same, ?_, ?_, ?_, ?_⟩
    · rw [attributesOf_named]
      exact attributes.set name value
    · rw [rawStyleOf_skip rfl]
      exact rawStyle
    · rw [changesOf_skip rfl rfl]
      exact properties
    · rw [nodesOf_skip rfl rfl]
      exact children
  | child tag value =>
    refine ⟨same, ?_, ?_, ?_, ?_⟩
    · rw [attributesOf_skip rfl]
      exact attributes
    · rw [rawStyleOf_skip rfl]
      exact rawStyle
    · rw [changesOf_skip rfl rfl]
      exact properties
    · rw [nodesOf_concat rfl, ← children]
      exact Array.toList_push

/-- Going through the parts from a new element amounts to what they say. -/
theorem amountsTo_foldl (policy : Policy) (depth : Nat) (tag : String) (parts : List Part) :
    AmountsTo policy depth tag parts (parts.foldl (Part.apply policy depth) (Element.new tag)) := by
  induction parts using List.reverseRecOn with
  | nil => exact .new
  | append_singleton parts part ih =>
    rw [List.foldl_append]
    exact ih.apply part

/-! ## Nodes -/

/-- Wherever a tag is entered below `depth` open elements, the walk comes to hand over this node. -/
def Renders (policy : Policy) (depth : Nat) (tag : String) (s : Source) (node : Node) : Prop :=
  ∀ a : Around, a.depth = depth → Leads policy (enter policy tag s a).outcome (deliver node a)

theorem renders_tagNode {s : Source} (h : NoGates (s.mentions ·)) :
    Renders policy depth tag s (tagNode policy depth tag s) := by
  intro a ha
  rw [← ha]
  exact enter_leads h

/-- What a tag renders to below no open element is the node of the document that it is all of. -/
theorem Renders.renderNodes_eq {s : Source} {node : Node} (h : Renders policy 0 tag s node) :
    renderNodes policy (.mapping [(tag, s)]) = [node] := by
  have entered : Leads policy (.goOn (State.start (.mapping [(tag, s)])))
      (.yield node (.next ⟨[], []⟩)) := .step (.step (h ⟨[], []⟩ rfl))
  rw [renderNodes_eq_remaining]
  refine (entered.nodes_eq (remaining_step policy)).trans ?_
  rw [Outcome.nodes, remaining_step policy]
  rfl

/-- A tag that is let through and whose value is a mapping renders to what has been built. -/
theorem tagNode_mapping {entries : List (String × Source)}
    (allowed : policy.check tag depth = .ok ()) (named : Text.isName tag = true) :
    tagNode policy depth tag (.mapping entries) =
      finished (built policy (depth + 1) (Element.new tag) entries) := by
  rw [tagNode, admitted, allowed]
  exact if_pos named

theorem noGates_of_mem {entries : List (String × Source)} {entry : String × Source}
    (h : NoGates (entriesMention · entries)) (hmem : entry ∈ entries) :
    NoGates (entry.2.mentions ·) := by
  induction entries with
  | nil => cases hmem
  | cons first rest ih =>
    obtain ⟨hfirst, hrest⟩ := noGates_entries_cons h
    rcases List.mem_cons.mp hmem with rfl | hmem
    · exact hfirst
    · exact ih hrest hmem

theorem child_mem_of_mem_childrenOf {child : String × Source} (h : child ∈ childrenOf parts) :
    Part.child child.1 child.2 ∈ parts := by
  obtain ⟨part, hpart, hchild⟩ := List.mem_filterMap.mp h
  cases part with
  | child tag value =>
    cases hchild
    exact (List.rtakeWhile_suffix _ _).subset hpart
  | _ => cases hchild

/-- A child that is read off the entries is one of them. -/
theorem mem_entries_of_child_mem {entries : List (String × Source)}
    (reads : List.Forall₂ Reads entries parts) {child : String × Source}
    (h : Part.child child.1 child.2 ∈ parts) : child ∈ entries := by
  induction reads with
  | nil => cases h
  | cons hr _ ih =>
    rcases List.mem_cons.mp h with heq | h
    · rw [← heq] at hr
      cases hr
      exact List.mem_cons_self
    · exact List.mem_cons_of_mem _ (ih h)

/-- **The content of a mapping in closed form.** A tag that is let through and whose value is a
mapping renders to the error of the first attribute that cannot be used, whatever its children are.
If every attribute can be used, it renders to an element with the last value of each attribute, in
the order in which they were first set; with the last raw style, and the properties merged after it
that were not removed again; and with the last text, followed by the children after it, each of them
rendered one level deeper. -/
theorem renders_mapping (policy : Policy) (depth : Nat) (tag : String)
    (entries : List (String × Source)) (allowed : policy.check tag depth = .ok ())
    (named : Text.isName tag = true) (noGates : NoGates (entriesMention · entries)) :
    (∀ before name s after, entries = before ++ ("$" ++ name, s) :: after →
      (∀ entry ∈ before, Acceptable entry) → ¬ Acceptable ("$" ++ name, s) →
      ∃ error, Fault tag name s error ∧
        Renders policy depth tag (.mapping entries) (.error error.message)) ∧
    ((∀ entry ∈ entries, Acceptable entry) →
      ∃ parts attributes style, List.Forall₂ Reads entries parts ∧
        attributes.Lists (attributesOf parts) ∧
        style.text = rawStyleOf parts ∧ style.properties.Lists (lasting (changesOf parts)) ∧
        (∀ child ∈ childrenOf parts, Renders policy (depth + 1) child.1 child.2
          (tagNode policy (depth + 1) child.1 child.2)) ∧
        Renders policy depth tag (.mapping entries) (.element tag attributes style
          (textNodes (textOf parts) ++
            (childrenOf parts).map fun child => tagNode policy (depth + 1) child.1 child.2))) := by
  have whole : Renders policy depth tag (.mapping entries)
      (finished (built policy (depth + 1) (Element.new tag) entries)) := by
    rw [← tagNode_mapping allowed named]
    exact renders_tagNode noGates
  refine ⟨fun before name s after split earlier unacceptable => ?_, fun acceptable => ?_⟩
  · obtain ⟨error, fault⟩ := (acceptable_or_fault tag name s).resolve_left unacceptable
    refine ⟨error, fault, ?_⟩
    obtain ⟨parts, reads⟩ := exists_reads earlier
    have same := (amountsTo_foldl policy (depth + 1) tag parts).tag
    rw [← same] at fault
    subst split
    rw [built_append_of_reads reads, built_attribute, applied_of_fault fault] at whole
    exact whole
  · obtain ⟨parts, reads⟩ := exists_reads acceptable
    have amounts := amountsTo_foldl policy (depth + 1) tag parts
    rw [← List.append_nil entries, built_append_of_reads reads, List.append_nil, built] at whole
    refine ⟨parts, _, _, reads, amounts.attributes, amounts.rawStyle, amounts.properties, ?_, ?_⟩
    · intro child hchild
      have hmem := mem_entries_of_child_mem reads (child_mem_of_mem_childrenOf hchild)
      exact renders_tagNode (noGates_of_mem noGates hmem)
    · rw [finished, Element.toNode, amounts.tag, amounts.children] at whole
      exact whole

def linkWithoutTarget : List (String × Source) :=
  [("em", .text "left out"), ("$id", .text "first"), ("$href", .pending (.failing none 1 "lost"))]

/-- Its child and its first attribute do not keep it from being an error, within other elements and
as all of a document. -/
theorem renders_linkWithoutTarget :
    Policy.standard.check "a" 3 = .ok () ∧ Text.isName "a" = true ∧
      NoGates (entriesMention · linkWithoutTarget) ∧
      Renders .standard 3 "a" (.mapping linkWithoutTarget)
        (.error "Source could not be resolved: lost") ∧
      renderNodes .standard (.mapping [("a", .mapping linkWithoutTarget)]) =
        [.error "Source could not be resolved: lost"] := by
  have named : Text.isName "a" = true := by decide
  have noGates : NoGates (entriesMention · linkWithoutTarget) := fun g => rfl
  have fault : Fault "a" "href" (.pending (.failing none 1 "lost")) (.unresolved "lost") :=
    .unresolved rfl
  have earlier : ∀ entry ∈ linkWithoutTarget.take 2, Acceptable entry := by
    intro entry hentry
    rcases List.mem_cons.mp hentry with rfl | hentry
    · exact ⟨_, .child rfl⟩
    · rw [List.mem_singleton.mp hentry]
      exact ⟨_, @Reads.named "id" _ _ (by decide) (by decide) (by decide) rfl⟩
  have renders : ∀ depth, Policy.standard.check "a" depth = .ok () →
      Renders .standard depth "a" (.mapping linkWithoutTarget)
        (.error "Source could not be resolved: lost") := by
    intro depth allowed
    obtain ⟨error, fault', renders⟩ := (renders_mapping .standard depth "a" linkWithoutTarget
      allowed named noGates).1 (linkWithoutTarget.take 2) "href" _ [] rfl earlier
      (not_acceptable_of_fault fault)
    rw [← fault.unique fault'] at renders
    exact renders
  exact ⟨rfl, named, noGates, renders 3 rfl, (renders 0 rfl).renderNodes_eq⟩

end JsonMarkup.Render
