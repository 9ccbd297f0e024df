import JsonMarkup.Proofs.Render.Plain
import Mathlib.Data.List.Forall2

/-!
# Entries of a mapping

The entries of a mapping change one element in order. This file says what each of them does to it,
or what is wrong with it.

**What an entry says** (`Reads`). An entry that can be used is a text, raw style, changes of
properties, an attribute, or a child.

**What is wrong with it** (`Fault`). An attribute that cannot be used has a first fault: a value
that fails to resolve, before its name and shape count; or a property without a name, before its
value counts.

**Main statements.** `built_of_reads`: an entry that can be used changes the element as it says.
`applied_of_fault`: one that cannot be used ends the element with its fault. Every attribute is one
or the other (`acceptable_or_fault`, `not_acceptable_of_fault`).
-/

namespace JsonMarkup.Render

/-! ## Entries -/

/-- A style property and what becomes of it: it is set to a text, or removed. -/
abbrev Change := String × Option String

/-- What an entry of a mapping says about the element. -/
inductive Part where
  | text (content : String)
  | rawStyle (css : String)
  /-- Changes of properties of its style, under their style-sheet names. -/
  | changes (cs : List Change)
  | named (name value : String)
  | child (tag : String) (value : Source)

/-- A property with a name and a scalar value says what becomes of it. -/
inductive ReadsChange : String × Source → Change → Prop
  | scalar {name : String} {s : Source} {value : Value} {change : Option String} :
    name ≠ "" → s.outcome = .ok value → propertyValue? value = some change →
    ReadsChange (name, s) (Css.propertyName name, change)

/-- What an entry that can be used says. -/
inductive Reads : String × Source → Part → Prop
  | text {s : Source} {content : String} : s.outcome = .ok (.text content) →
    Reads ("$text", s) (.text content)
  | rawStyle {s : Source} {css : String} : s.outcome = .ok (.text css) →
    Reads ("$style", s) (.rawStyle css)
  | changes {s : Source} {properties : List (String × Source)} {cs : List Change} :
    s.outcome = .ok (.mapping properties) → List.Forall₂ ReadsChange properties cs →
    Reads ("$style", s) (.changes cs)
  | named {name : String} {s : Source} {value : String} : name ≠ "text" → name ≠ "style" →
    Text.isName name = true → s.outcome = .ok (.text value) →
    Reads ("$" ++ name, s) (.named name value)
  | child {tag : String} {s : Source} : attributeName? tag = none → Reads (tag, s) (.child tag s)

/-- The entry can be used. A child always can. -/
def Acceptable (entry : String × Source) : Prop := ∃ part, Reads entry part

/-- What is wrong with a property in the style of a tag; its name is looked at first. -/
inductive PropertyFault (tag : String) : String × Source → RenderError → Prop
  | nameless {s : Source} : PropertyFault tag ("", s) (.badAttribute "style" tag)
  | unresolved {name : String} {s : Source} {reason : String} : name ≠ "" →
    s.outcome = .error reason → PropertyFault tag (name, s) (.unresolved reason)
  | unsuitable {name : String} {s : Source} {value : Value} : name ≠ "" → s.outcome = .ok value →
    propertyValue? value = none → PropertyFault tag (name, s) (.badAttribute "style" tag)

/-- The first fault of an attribute of a tag; its value is resolved first. -/
inductive Fault (tag : String) : String → Source → RenderError → Prop
  | unresolved {name : String} {s : Source} {reason : String} : s.outcome = .error reason →
    Fault tag name s (.unresolved reason)
  | text {s : Source} {value : Value} : s.outcome = .ok value → (∀ t, value ≠ .text t) →
    Fault tag "text" s (.badAttribute "text" tag)
  | style {s : Source} {value : Value} : s.outcome = .ok value → (∀ t, value ≠ .text t) →
    (∀ properties, value ≠ .mapping properties) → Fault tag "style" s (.badAttribute "style" tag)
  | property {s : Source} {before after : List (String × Source)} {p : String × Source}
    {cs : List Change} {error : RenderError} : s.outcome = .ok (.mapping (before ++ p :: after)) →
    List.Forall₂ ReadsChange before cs → PropertyFault tag p error → Fault tag "style" s error
  | named {name : String} {s : Source} {value : Value} : name ≠ "text" → name ≠ "style" →
    s.outcome = .ok value → (Text.isName name = false ∨ ∀ t, value ≠ .text t) →
    Fault tag name s (.badAttribute name tag)

/-! ## Going through the entries -/

def changed (style : Style) (c : Change) : Style :=
  match c.2 with
  | some value => { style with properties := style.properties.set c.1 value }
  | none => { style with properties := style.properties.erase c.1 }

/-- What a part makes of an element, whose children stand below `depth` elements. -/
def Part.apply (policy : Policy) (depth : Nat) (e : Element) : Part → Element
  | .text content => e.setText content
  | .rawStyle css => { e with style := e.style.setText css }
  | .changes cs => { e with style := cs.foldl changed e.style }
  | .named name value => e.setAttribute name value
  | .child tag value => e.append (tagNode policy depth tag value)

variable {policy : Policy} {depth : Nat}

theorem setProperty_eq_changed (style : Style) (name : String) (change : Option String) :
    setProperty style name change = changed style (Css.propertyName name, change) := by
  cases change with
  | none => rfl
  | some value => rfl

/-- Properties that can be used are merged one after the other. -/
theorem merged_of_reads {e : Element} {properties more : List (String × Source)}
    {cs : List Change} (h : List.Forall₂ ReadsChange properties cs) :
    merged e (properties ++ more) = merged { e with style := cs.foldl changed e.style } more := by
  induction h generalizing e with
  | nil => rfl
  | cons hc _ ih =>
    cases hc with
    | scalar named resolved scalar =>
      rw [List.cons_append, merged, if_neg named, resolved]
      dsimp only
      rw [scalar]
      dsimp only
      rw [ih, setProperty_eq_changed]
      rfl

theorem merged_of_fault {e : Element} {p : String × Source} {more : List (String × Source)}
    {error : RenderError} (h : PropertyFault e.tag p error) :
    merged e (p :: more) = .error error := by
  cases h with
  | nameless =>
    rw [merged, if_pos rfl]
    rfl
  | unresolved named resolved => rw [merged, if_neg named, resolved]
  | unsuitable named resolved unsuitable =>
    rw [merged, if_neg named, resolved]
    dsimp only
    rw [unsuitable]
    rfl

theorem attributeName?_eq_some_iff {key name : String} :
    attributeName? key = some name ↔ key = "$" ++ name := by
  have dollar : ("$" ++ name).toList = '$' :: name.toList := by
    rw [String.toList_append]
    rfl
  rw [← String.toList_inj, dollar, attributeName?]
  cases key.toList with
  | nil => simp
  | cons c rest =>
    by_cases h : c = '$'
    · simp [h, sigil, ← String.toList_inj]
    · simp [h, sigil]

/-- An entry whose key names an attribute is applied before the rest is gone through. -/
theorem built_attribute {e : Element} {name : String} {s : Source}
    {rest : List (String × Source)} :
    built policy depth e (("$" ++ name, s) :: rest) =
      applied e name s >>= fun e => built policy depth e rest := by
  rw [built, attributeName?_eq_some_iff.mpr rfl]

theorem appliedValue_named {e : Element} {name : String} {value : Value} (text : name ≠ "text")
    (style : name ≠ "style") : appliedValue e name value =
      match value with
      | .text t =>
        if Text.isName name then .ok (e.setAttribute name t)
        else .error (.badAttribute name e.tag)
      | _ => .error (.badAttribute name e.tag) :=
  (if_neg text).trans (if_neg style)

/-- An entry that can be used changes the element as it says. -/
theorem built_of_reads {e : Element} {entry : String × Source} {part : Part}
    {rest : List (String × Source)} (h : Reads entry part) :
    built policy depth e (entry :: rest) = built policy depth (part.apply policy depth e) rest := by
  cases h with
  | text resolved =>
    show built policy depth e (("$" ++ textName, _) :: rest) = _
    rw [built_attribute, applied, resolved]
    rfl
  | rawStyle resolved =>
    show built policy depth e (("$" ++ styleName, _) :: rest) = _
    rw [built_attribute, applied, resolved]
    rfl
  | @changes s properties cs resolved reads =>
    show built policy depth e (("$" ++ styleName, _) :: rest) = _
    have merged_all : merged e properties = .ok { e with style := cs.foldl changed e.style } := by
      rw [← List.append_nil properties, merged_of_reads reads, merged]
    rw [built_attribute, applied, resolved]
    show merged e properties >>= _ = _
    rw [merged_all]
    rfl
  | named text style named resolved =>
    rw [built_attribute, applied, resolved]
    dsimp only
    rw [appliedValue_named text style]
    dsimp only
    rw [if_pos named]
    rfl
  | child notNamed =>
    rw [built, notNamed]
    rfl

/-- Entries that can be used change the element one after the other. -/
theorem built_append_of_reads {e : Element} {entries rest : List (String × Source)}
    {parts : List Part} (h : List.Forall₂ Reads entries parts) :
    built policy depth e (entries ++ rest) =
      built policy depth (parts.foldl (Part.apply policy depth) e) rest := by
  induction h generalizing e with
  | nil => rfl
  | cons hr _ ih => rw [List.cons_append, built_of_reads hr, ih, List.foldl_cons]

/-- An attribute that cannot be used fails with its first fault. -/
theorem applied_of_fault {e : Element} {name : String} {s : Source} {error : RenderError}
    (h : Fault e.tag name s error) : applied e name s = .error error := by
  cases h with
  | unresolved resolved => rw [applied, resolved]
  | @text _ value resolved notText =>
    rw [applied, resolved]
    cases value with
    | text t => exact absurd rfl (notText t)
    | _ => rfl
  | @style _ value resolved notText notMapping =>
    rw [applied, resolved]
    cases value with
    | text t => exact absurd rfl (notText t)
    | mapping properties => exact absurd rfl (notMapping properties)
    | _ => rfl
  | property resolved reads fault =>
    rw [applied, resolved]
    show merged e _ = _
    rw [merged_of_reads reads]
    exact merged_of_fault fault
  | @named _ _ value text style resolved unsuitable =>
    rw [applied, resolved]
    dsimp only
    rw [appliedValue_named text style]
    cases value with
    | text t =>
      rcases unsuitable with notName | notText
      · dsimp only
        rw [notName]
        rfl
      · exact absurd rfl (notText t)
    | _ => rfl

/-! ## Every entry can be used or has a fault -/

theorem readsChange_or_fault (tag : String) (p : String × Source) :
    (∃ c, ReadsChange p c) ∨ ∃ error, PropertyFault tag p error := by
  obtain ⟨name, s⟩ := p
  by_cases named : name = ""
  · subst named
    exact .inr ⟨_, .nameless⟩
  · cases resolved : s.outcome with
    | error reason => exact .inr ⟨_, .unresolved named resolved⟩
    | ok value =>
      cases scalar : propertyValue? value with
      | none => exact .inr ⟨_, .unsuitable named resolved scalar⟩
      | some change => exact .inl ⟨_, .scalar named resolved scalar⟩

/-- Properties can all be used, or a first one has a fault. -/
theorem readsChanges_or_fault (tag : String) (properties : List (String × Source)) :
    (∃ cs, List.Forall₂ ReadsChange properties cs) ∨
      ∃ before p after cs error, properties = before ++ p :: after ∧
        List.Forall₂ ReadsChange before cs ∧ PropertyFault tag p error := by
  induction properties with
  | nil => exact .inl ⟨[], .nil⟩
  | cons p rest ih =>
    rcases readsChange_or_fault tag p with ⟨c, hc⟩ | ⟨error, fault⟩
    · rcases ih with ⟨cs, reads⟩ | ⟨before, q, after, cs, error, rfl, reads, fault⟩
      · exact .inl ⟨c :: cs, .cons hc reads⟩
      · exact .inr ⟨p :: before, q, after, c :: cs, error, rfl, .cons hc reads, fault⟩
    · exact .inr ⟨[], p, rest, [], error, rfl, .nil, fault⟩

theorem acceptable_or_fault (tag name : String) (s : Source) :
    Acceptable ("$" ++ name, s) ∨ ∃ error, Fault tag name s error := by
  cases resolved : s.outcome with
  | error reason => exact .inr ⟨_, .unresolved resolved⟩
  | ok value =>
    by_cases text : name = "text"
    · subst text
      cases value with
      | text t => exact .inl ⟨_, .text resolved⟩
      | _ => exact .inr ⟨_, .text resolved nofun⟩
    · by_cases style : name = "style"
      · subst style
        cases value with
        | text css => exact .inl ⟨_, .rawStyle resolved⟩
        | mapping properties =>
          rcases readsChanges_or_fault tag properties with
            ⟨cs, reads⟩ | ⟨before, p, after, cs, error, rfl, reads, fault⟩
          · exact .inl ⟨_, .changes resolved reads⟩
          · exact .inr ⟨_, .property resolved reads fault⟩
        | _ => exact .inr ⟨_, .style resolved nofun nofun⟩
      · cases value with
        | text t =>
          cases named : Text.isName name with
          | true => exact .inl ⟨_, .named text style named resolved⟩
          | false => exact .inr ⟨_, .named text style resolved (.inl named)⟩
        | _ => exact .inr ⟨_, .named text style resolved (.inr nofun)⟩

theorem not_acceptable_of_fault {tag name : String} {s : Source} {error : RenderError}
    (h : Fault tag name s error) : ¬ Acceptable ("$" ++ name, s) := by
  rintro ⟨part, reads⟩
  have fails : applied (Element.new tag) name s = .error error := applied_of_fault h
  have applies : built .standard 0 (Element.new tag) [("$" ++ name, s)] =
      .ok (part.apply .standard 0 (Element.new tag)) := built_of_reads reads
  rw [built_attribute, fails] at applies
  cases applies

/-- An attribute has only one first fault. -/
theorem Fault.unique {tag name : String} {s : Source} {error error' : RenderError}
    (h : Fault tag name s error) (h' : Fault tag name s error') : error = error' := by
  have fails : applied (Element.new tag) name s = .error error := applied_of_fault h
  have fails' : applied (Element.new tag) name s = .error error' := applied_of_fault h'
  rw [fails] at fails'
  exact Except.error.inj fails'

theorem exists_reads {entries : List (String × Source)}
    (h : ∀ entry ∈ entries, Acceptable entry) : ∃ parts, List.Forall₂ Reads entries parts := by
  induction entries with
  | nil => exact ⟨[], .nil⟩
  | cons entry rest ih =>
    obtain ⟨part, reads⟩ := h entry List.mem_cons_self
    obtain ⟨parts, all⟩ := ih fun e he => h e (List.mem_cons_of_mem _ he)
    exact ⟨part :: parts, .cons reads all⟩

end JsonMarkup.Render
