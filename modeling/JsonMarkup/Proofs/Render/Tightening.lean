import JsonMarkup.Proofs.Render.Admission
import JsonMarkup.Proofs.Render.Plain
import JsonMarkup.Proofs.Source.Role
import Mathlib.Data.List.Forall2

/-!
# Stricter policies

A document is rendered under two policies. What they decide differently shows in the nodes of the
tags that they decide about, and nowhere else: siblings stay where they are, attributes and styles
stay as they are, and an element that one policy cannot finish the other cannot finish either.

**Theorem (`cut_of_stricter`).** If everything that the second policy lets through passes the first,
rendering under the second cuts branches off: nodes and children correspond one to one, and a node
that is not the same has become an error. If the two policies decide alike about the tags of the
document, at the depths at which they stand, nothing changes at all.

Both parts are one induction on the document (`fragment_related`), for an arbitrary relation between
nodes that elements carry on from their children (`Congruence`).
-/

namespace JsonMarkup

/-- What is left of a node when branches of it are cut off: each becomes an error node. -/
inductive Cut : Node → Node → Prop
  | error {message : String} {n : Node} : Cut (.error message) n
  | text {content : String} : Cut (.text content) (.text content)
  | element {tag : String} {attributes : Fields String} {style : Style} {cs ds : List Node} :
    List.Forall₂ Cut cs ds →
      Cut (.element tag attributes style cs) (.element tag attributes style ds)

/-- The message with which a policy refuses a tag, if it does. -/
def Policy.refusal? (policy : Policy) (tag : String) (depth : Nat) : Option String :=
  match policy.check tag depth with
  | .ok () => none
  | .error violation => some violation.message

/-! ## Relations that elements carry on -/

/-- Nodes without children are related to themselves, and elements that differ only in related
children are related. -/
structure Congruence (R : Node → Node → Prop) : Prop where
  text : ∀ content, R (.text content) (.text content)
  error : ∀ message, R (.error message) (.error message)
  element : ∀ {tag attributes style cs ds}, List.Forall₂ R cs ds →
    R (.element tag attributes style cs) (.element tag attributes style ds)

theorem Cut.congruence : Congruence Cut where
  text _ := .text
  error _ := .error
  element := .element

theorem congruence_eq : Congruence Eq where
  text _ := rfl
  error _ := rfl
  element h := by rw [List.forall₂_eq_eq_eq] at h; rw [h]

namespace Render

/-- The elements differ only in related children. -/
structure Alike (R : Node → Node → Prop) (e f : Element) : Prop where
  tag : e.tag = f.tag
  attributes : e.attributes = f.attributes
  style : e.style = f.style
  children : List.Forall₂ R e.children.toList f.children.toList

/-- Both elements have been built, or neither, for the same cause. -/
def SameFate (R : Node → Node → Prop) :
    Except RenderError Element → Except RenderError Element → Prop
  | .ok e, .ok f => Alike R e f
  | .error x, .error y => x = y
  | _, _ => False

variable {R : Node → Node → Prop} {P Q : Policy}

theorem SameFate.bind {x y : Except RenderError Element}
    {k l : Element → Except RenderError Element} (h : SameFate R x y)
    (hk : ∀ {e f}, Alike R e f → SameFate R (k e) (l f)) : SameFate R (x >>= k) (y >>= l) := by
  cases x with
  | ok e =>
    cases y with
    | ok f => exact hk h
    | error y => exact h.elim
  | error x =>
    cases y with
    | ok f => exact h.elim
    | error y => exact h

theorem SameFate.finished (congr : Congruence R) {x y : Except RenderError Element}
    (h : SameFate R x y) : R (finished x) (finished y) := by
  cases x with
  | ok e =>
    cases y with
    | ok f =>
      obtain ⟨tag, attributes, style, children⟩ := h
      rw [JsonMarkup.finished, JsonMarkup.finished, Element.toNode, Element.toNode, tag, attributes,
        style]
      exact congr.element children
    | error y => exact h.elim
  | error x =>
    cases y with
    | ok f => exact h.elim
    | error y =>
      obtain rfl : x = y := h
      exact congr.error _

/-! ## Attributes -/

theorem Alike.new (tag : String) : Alike R (Element.new tag) (Element.new tag) :=
  ⟨rfl, rfl, rfl, .nil⟩

theorem Alike.append {e f : Element} (h : Alike R e f) {n m : Node} (hn : R n m) :
    Alike R (e.append n) (f.append m) := by
  refine ⟨h.tag, h.attributes, h.style, ?_⟩
  rw [Element.append, Element.append, Array.toList_push, Array.toList_push]
  exact List.rel_append h.children (.cons hn .nil)

theorem Alike.setText (congr : Congruence R) {e f : Element} (h : Alike R e f) (text : String) :
    Alike R (e.setText text) (f.setText text) := by
  refine ⟨h.tag, h.attributes, h.style, ?_⟩
  unfold Element.setText
  dsimp only
  split
  · exact .nil
  · exact .cons (congr.text text) .nil

theorem Alike.setAttribute {e f : Element} (h : Alike R e f) (name value : String) :
    Alike R (e.setAttribute name value) (f.setAttribute name value) :=
  ⟨h.tag, congrArg (·.set name value) h.attributes, h.style, h.children⟩

theorem Alike.setStyle {e f : Element} (h : Alike R e f) (change : Style → Style) :
    Alike R { e with style := change e.style } { f with style := change f.style } :=
  ⟨h.tag, h.attributes, congrArg change h.style, h.children⟩

/-- A refusal names the tag of the element, which is the same. -/
theorem Alike.refused {e f : Element} (h : Alike R e f) (name : String) :
    SameFate R (.error (.badAttribute name e.tag)) (.error (.badAttribute name f.tag)) :=
  congrArg (RenderError.badAttribute name) h.tag

theorem merged_alike {e f : Element} {props : List (String × Source)} (h : Alike R e f) :
    SameFate R (merged e props) (merged f props) := by
  induction props generalizing e f with
  | nil => exact h
  | cons p more ih =>
    obtain ⟨name, value⟩ := p
    rw [merged, merged]
    split
    · exact h.refused _
    · cases value.outcome with
      | error reason => exact rfl
      | ok v =>
        dsimp only
        cases propertyValue? v with
        | none => exact h.refused _
        | some v => exact ih (h.setStyle (setProperty · name v))

theorem appliedValue_alike (congr : Congruence R) {e f : Element} {name : String} {value : Value}
    (h : Alike R e f) : SameFate R (appliedValue e name value) (appliedValue f name value) := by
  unfold appliedValue
  dsimp only
  split
  · cases value with
    | text text => exact h.setText congr text
    | _ => exact h.refused name
  · split
    · cases value with
      | text css => exact h.setStyle (·.setText css)
      | mapping properties => exact merged_alike h
      | _ => exact h.refused name
    · cases value with
      | text text =>
        dsimp only
        split
        · exact h.setAttribute name text
        · exact h.refused name
      | _ => exact h.refused name

theorem applied_alike (congr : Congruence R) {e f : Element} {name : String} {s : Source}
    (h : Alike R e f) : SameFate R (applied e name s) (applied f name s) := by
  unfold applied
  cases s.outcome with
  | error reason => exact rfl
  | ok value => exact appliedValue_alike congr h

/-! ## Nodes -/

/-- What the policies decide about a tag at a depth keeps its node related if its content is. -/
def Decides (R : Node → Node → Prop) (Q P : Policy) (tag : String) (depth : Nat) : Prop :=
  ∀ n m, R n m → R (admitted Q depth tag n) (admitted P depth tag m)

/-- The policies decide so about all tags in a position. -/
def DecidesIn (R : Node → Node → Prop) (Q P : Policy) (role : Role) (s : Source) : Prop :=
  ∀ tag depth, Occurs tag depth role s → Decides R Q P tag depth

mutual

theorem fragment_related (congr : Congruence R) {depth : Nat} :
    ∀ {s : Source}, DecidesIn R Q P (.fragment depth) s →
      List.Forall₂ R (s.fragment Q depth) (s.fragment P depth)
  | .ready _, h => valueFragment_related congr h
  | .pending _, h => pendingFragment_related congr h
termination_by structural s => s

theorem pendingFragment_related (congr : Congruence R) {depth : Nat} :
    ∀ {p : Pending}, DecidesIn R Q P (.fragment depth) (.pending p) →
      List.Forall₂ R (p.fragment Q depth) (p.fragment P depth)
  | .deferred _ _ _, h => fragment_related congr fun tag depth ho => h tag depth (.settled ho)
  | .failing _ _ _, _ | .gate _, _ => .cons (congr.error _) .nil
termination_by structural p => p

theorem valueFragment_related (congr : Congruence R) {depth : Nat} :
    ∀ {v : Value}, DecidesIn R Q P (.fragment depth) (.ready v) →
      List.Forall₂ R (v.fragment Q depth) (v.fragment P depth)
  | .null, _ | .boolean _, _ | .number _, _ | .list _, _ => .cons (congr.error _) .nil
  | .text _, _ => .cons (congr.text _) .nil
  | .mapping _, h => entries_related congr fun _ he =>
    ⟨h _ _ (.entry he), fun tag depth ho => h tag depth (.underEntry he ho)⟩
termination_by structural v => v

theorem content_related (congr : Congruence R) {depth : Nat} {tag : String} :
    ∀ {s : Source}, DecidesIn R Q P (.content depth) s →
      R (s.content Q depth tag) (s.content P depth tag)
  | .ready _, h => valueContent_related congr h
  | .pending _, h => pendingContent_related congr h
termination_by structural s => s

theorem pendingContent_related (congr : Congruence R) {depth : Nat} {tag : String} :
    ∀ {p : Pending}, DecidesIn R Q P (.content depth) (.pending p) →
      R (p.content Q depth tag) (p.content P depth tag)
  | .deferred _ _ _, h => content_related congr fun tag depth ho => h tag depth (.settled ho)
  | .failing _ _ _, _ | .gate _, _ => congr.error _
termination_by structural p => p

theorem valueContent_related (congr : Congruence R) {depth : Nat} {tag : String} :
    ∀ {v : Value}, DecidesIn R Q P (.content depth) (.ready v) →
      R (v.content Q depth tag) (v.content P depth tag)
  | .null, _ | .boolean _, _ | .number _, _ => congr.error _
  | .text text, _ => SameFate.finished congr (x := .ok _) (y := .ok _)
    ((Alike.new tag).setText congr text)
  | .list _, h => congr.element (items_related congr fun _ hs tag depth ho =>
    h tag depth (.underItem hs ho))
  | .mapping _, h => (built_related congr (fun _ he notNamed =>
    ⟨h _ _ (.child he notNamed rfl), fun tag depth ho => h tag depth (.underChild he notNamed ho)⟩)
    (.new tag)).finished congr
termination_by structural v => v

theorem entries_related (congr : Congruence R) {depth : Nat} :
    ∀ {entries : List (String × Source)},
      (∀ e ∈ entries, Decides R Q P e.1 depth ∧ DecidesIn R Q P (.content depth) e.2) →
      List.Forall₂ R (entriesNodes Q depth entries) (entriesNodes P depth entries)
  | [], _ => .nil
  | (_, _) :: _, h =>
    have ⟨decided, within⟩ := h _ List.mem_cons_self
    .cons (decided _ _ (content_related congr within))
      (entries_related congr fun e he => h e (List.mem_cons_of_mem _ he))
termination_by structural entries => entries

theorem items_related (congr : Congruence R) {depth : Nat} :
    ∀ {items : List Source}, (∀ s ∈ items, DecidesIn R Q P (.fragment depth) s) →
      List.Forall₂ R (itemsNodes Q depth items) (itemsNodes P depth items)
  | [], _ => .nil
  | _ :: _, h => List.rel_append (fragment_related congr (h _ List.mem_cons_self))
    (items_related congr fun s hs => h s (List.mem_cons_of_mem _ hs))
termination_by structural items => items

/-- Elements are built alike: what the policies decide shows only in their children. -/
theorem built_related (congr : Congruence R) {depth : Nat} :
    ∀ {entries : List (String × Source)} {e f : Element},
      (∀ entry ∈ entries, attributeName? entry.1 = none →
        Decides R Q P entry.1 depth ∧ DecidesIn R Q P (.content depth) entry.2) →
      Alike R e f → SameFate R (built Q depth e entries) (built P depth f entries)
  | [], _, _, _, h => h
  | (key, s) :: rest, e, f, hd, h => by
    rw [built, built]
    have hrest := fun entry he => hd entry (List.mem_cons_of_mem _ he)
    cases hkey : attributeName? key with
    | some name =>
      exact (applied_alike congr h).bind fun h => built_related congr hrest h
    | none =>
      obtain ⟨decided, within⟩ := hd _ List.mem_cons_self hkey
      exact built_related congr hrest (h.append (decided _ _ (content_related congr within)))
termination_by structural entries => entries

end

/-! ## Decisions about a tag -/

/-- A stricter policy cuts off what it does not let through. -/
theorem decides_cut {tag : String} {depth : Nat}
    (stricter : Q.check tag depth = .ok () → P.check tag depth = .ok ()) :
    Decides Cut Q P tag depth := by
  intro n m h
  unfold admitted
  cases hQ : Q.check tag depth with
  | error violation => exact .error
  | ok _ =>
    rw [stricter hQ]
    dsimp only
    split
    · exact h
    · exact .error

/-- Policies that decide alike make no difference. -/
theorem decides_eq {tag : String} {depth : Nat}
    (same : Q.refusal? tag depth = P.refusal? tag depth) : Decides Eq Q P tag depth := by
  rintro n _ rfl
  unfold Policy.refusal? at same
  unfold admitted
  cases hQ : Q.check tag depth with
  | error v =>
    rw [hQ] at same
    cases hP : P.check tag depth with
    | error w =>
      rw [hP] at same
      exact congrArg Node.error (Option.some.inj same)
    | ok _ =>
      rw [hP] at same
      exact absurd same (Option.some_ne_none _)
  | ok _ =>
    rw [hQ] at same
    cases hP : P.check tag depth with
    | error w =>
      rw [hP] at same
      exact absurd same.symm (Option.some_ne_none _)
    | ok _ => rfl

/-- **A stricter policy only cuts branches off.** If `Q` lets nothing through that `P` does not, the
nodes under `Q` are those under `P` with some branches replaced by error nodes. If the two decide
alike about the tags of the document, the nodes are the same. The document may hold pending values
that settle or fail by themselves, so in particular none. -/
theorem cut_of_stricter (P Q : Policy) (source : Source) (noGates : NoGates (source.mentions ·)) :
    ((∀ tag depth, Q.check tag depth = .ok () → P.check tag depth = .ok ()) →
      List.Forall₂ Cut (renderNodes Q source) (renderNodes P source)) ∧
    ((∀ tag depth, Occurs tag depth (.fragment 0) source →
        Q.refusal? tag depth = P.refusal? tag depth) →
      renderNodes Q source = renderNodes P source) := by
  rw [renderNodes_eq_fragment noGates, renderNodes_eq_fragment noGates]
  refine ⟨fun stricter => ?_, fun same => ?_⟩
  · exact fragment_related Cut.congruence fun tag depth _ => decides_cut (stricter tag depth)
  · have related := fragment_related congruence_eq fun tag depth ho =>
      decides_eq (same tag depth ho)
    rwa [List.forall₂_eq_eq_eq] at related

/-- A script between an attribute and a paragraph. -/
def pageWithScript : Source :=
  .mapping [("div", .mapping [("$id", .text "page"), ("script", .text "run()"), ("p", .text "")])]

/-- Excluding scripts cuts the script off; excluding frames changes nothing. -/
theorem cut_pageWithScript :
    NoGates (pageWithScript.mentions ·) ∧
      (∀ tag depth, (Policy.standard.excluding ["script"]).check tag depth = .ok () →
        Policy.standard.check tag depth = .ok ()) ∧
      (∀ tag depth, Occurs tag depth (.fragment 0) pageWithScript →
        (Policy.standard.excluding ["iframe"]).refusal? tag depth =
          Policy.standard.refusal? tag depth) ∧
      List.Forall₂ Cut (renderNodes (.excluding .standard ["script"]) pageWithScript)
        (renderNodes .standard pageWithScript) ∧
      renderNodes (.excluding .standard ["iframe"]) pageWithScript =
        renderNodes .standard pageWithScript := by
  have noGates : NoGates (pageWithScript.mentions ·) := fun g => rfl
  have stricter : ∀ tag depth, (Policy.standard.excluding ["script"]).check tag depth = .ok () →
      Policy.standard.check tag depth = .ok () := by
    intro tag depth h
    obtain ⟨-, -, level⟩ := Policy.check_eq_ok_iff.mp h
    exact Policy.check_eq_ok_iff.mpr ⟨nofun, nofun, level⟩
  have same : ∀ tag depth, Occurs tag depth (.fragment 0) pageWithScript →
      (Policy.standard.excluding ["iframe"]).refusal? tag depth =
        Policy.standard.refusal? tag depth := by
    intro tag depth ho
    cases ho with
    | entry he =>
      simp only [List.mem_singleton, Prod.mk.injEq] at he
      rw [he.1]
      decide
    | underEntry he ho =>
      simp only [List.mem_singleton, Prod.mk.injEq] at he
      rw [he.2] at ho
      cases ho with
      | child he notNamed hdepth =>
        simp only [List.mem_cons, List.not_mem_nil, or_false, Prod.mk.injEq] at he
        rcases he with ⟨rfl, -⟩ | ⟨rfl, -⟩ | ⟨rfl, -⟩
        · exact absurd notNamed (by decide)
        · rw [hdepth]
          decide
        · rw [hdepth]
          decide
      | underChild he notNamed ho =>
        simp only [List.mem_cons, List.not_mem_nil, or_false, Prod.mk.injEq] at he
        rcases he with ⟨-, rfl⟩ | ⟨-, rfl⟩ | ⟨-, rfl⟩ <;> cases ho
  exact ⟨noGates, stricter, same, (cut_of_stricter .standard _ _ noGates).1 stricter,
    (cut_of_stricter .standard _ _ noGates).2 same⟩

end Render

end JsonMarkup
