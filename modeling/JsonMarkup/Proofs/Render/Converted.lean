import JsonMarkup.Proofs.Render.Admission
import JsonMarkup.Proofs.Render.Siblings
import JsonMarkup.Proofs.Surface.Snapshot

/-!
# Property names in rendered nodes

Whatever names the properties of a style have in the document, in a rendered node they have the
names that a conversion has given them. Such a name need not be one that another conversion keeps.

**Theorem (`converted_of_rendered`).** Every property name in a rendered node is the result of a
conversion. The proof is by recursion on the document: a node that is rendered with gates in the
way is one of those that are rendered if the gates are cancelled (`Rendered.mem_fragment`).
-/

namespace JsonMarkup.Render

variable {policy : Policy} {depth : Nat} {tag : String}

/-! ## Nodes of a document without gates -/

/-- What comes while gates are in the way comes first whatever becomes of them. -/
theorem remaining_prefix_final (Ω : Outcomes) (s : State) :
    s.remaining policy <+: (s.final Ω).remaining policy := by
  have foretold : ∀ s, (s.final Ω).remaining policy =
      (step policy s).outcome.nodes fun s => (s.final Ω).remaining policy :=
    foretells_final Ω policy
  fun_induction State.remaining policy s with
  | case1 s below s' hs _ ih =>
    rw [foretold s, hs]
    exact ih
  | case2 s below s' hs _ => exact List.nil_prefix
  | case3 s below s' hs _ _ ih =>
    rw [foretold s, hs]
    exact ih
  | case4 s below node s' hs _ ih =>
    rw [foretold s, hs]
    exact List.cons_prefix_cons.mpr ⟨rfl, ih⟩
  | case5 s below hs => exact List.nil_prefix

/-- A rendered node is a node of some document without gates. -/
theorem Rendered.mem_fragment {source : Source} {n : Node} (h : Rendered policy source n) :
    ∃ s : Source, n ∈ s.fragment policy 0 := by
  have noGates : ∀ s : Source, NoGates ((s.final allCancelled).mentions ·) :=
    fun s _ => s.mentions_final fun _ => rfl
  suffices rendered : ∃ s : Source, n ∈ renderNodes policy (s.final allCancelled) by
    obtain ⟨s, mem⟩ := rendered
    rw [renderNodes_eq_fragment (noGates s)] at mem
    exact ⟨_, mem⟩
  rcases h with ⟨moves, h⟩ | h
  · let c := course policy source moves
    refine ⟨c.document source, ?_⟩
    rw [← (foreseen_course policy source moves).nodes allCancelled]
    exact List.mem_append_left _ h
  · refine ⟨source, ?_⟩
    rw [renderNodes_eq_remaining] at h ⊢
    exact (remaining_prefix_final allCancelled (State.start source)).subset h

/-! ## Names that a conversion has given -/

/-- A conversion has given this name. -/
def IsConverted (name : String) : Prop := ∃ raw, Css.propertyName raw = name

/-- The property names in the node are results of conversions. -/
def AllConverted (n : Node) : Prop := ∀ name ∈ n.propertyNames, IsConverted name

/-- The property names in the element and in what stands in it so far are results of conversions. -/
structure ConvertedElement (e : Element) : Prop where
  style : ∀ name ∈ e.style.properties.names, IsConverted name
  children : ∀ n ∈ e.children.toList, AllConverted n

theorem forall_mem_propertyNamesOf {P : String → Prop} {nodes : List Node} :
    (∀ name ∈ propertyNamesOf nodes, P name) ↔ ∀ n ∈ nodes, ∀ name ∈ n.propertyNames, P name := by
  induction nodes with
  | nil => exact iff_of_true nofun nofun
  | cons n rest ih => rw [propertyNamesOf, List.forall_mem_append, List.forall_mem_cons, ih]

theorem allConverted_element {attributes : Fields String} {style : Style} {children : List Node} :
    AllConverted (.element tag attributes style children) ↔
      (∀ name ∈ style.properties.names, IsConverted name) ∧ ∀ n ∈ children, AllConverted n := by
  rw [AllConverted, Node.propertyNames, List.forall_mem_append, forall_mem_propertyNamesOf]
  rfl

theorem allConverted_text {content : String} : AllConverted (.text content) := nofun

theorem allConverted_failed {error : RenderError} : AllConverted (failed error) := nofun

namespace ConvertedElement

variable {e : Element}

theorem toNode (h : ConvertedElement e) : AllConverted e.toNode :=
  allConverted_element.mpr ⟨h.style, h.children⟩

theorem new : ConvertedElement (Element.new tag) := ⟨nofun, nofun⟩

theorem setText (h : ConvertedElement e) (text : String) : ConvertedElement (e.setText text) := by
  refine ⟨h.style, fun n hn => ?_⟩
  unfold Element.setText at hn
  dsimp only at hn
  split at hn
  · cases hn
  · rw [List.mem_singleton.mp hn]
    exact allConverted_text

theorem append (h : ConvertedElement e) {n : Node} (hn : AllConverted n) :
    ConvertedElement (e.append n) := by
  refine ⟨h.style, ?_⟩
  rw [Element.append, Array.toList_push]
  exact List.forall_mem_append.mpr ⟨h.children, List.forall_mem_singleton.mpr hn⟩

/-- A property is set and removed under the name that a conversion gives it. -/
theorem setProperty (h : ConvertedElement e) (name : String) (change : Option String) :
    ConvertedElement { e with style := Render.setProperty e.style name change } := by
  refine ⟨fun found hfound => ?_, h.children⟩
  cases change with
  | none =>
    have kept : found ∈ (e.style.properties.erase (Css.propertyName name)).names := hfound
    rw [Fields.names_erase] at kept
    exact h.style found (List.mem_filter.mp kept).1
  | some value =>
    have set : found ∈ (e.style.properties.set (Css.propertyName name) value).names := hfound
    rw [Fields.names_set] at set
    split at set
    · exact h.style found set
    · rcases List.mem_append.mp set with old | new
      · exact h.style found old
      · exact ⟨name, (List.mem_singleton.mp new).symm⟩

theorem keptBySetting : KeptBySetting ConvertedElement where
  text text h := h.setText text
  rawStyle _ h := ⟨List.forall_mem_nil _, h.children⟩
  property name change h := h.setProperty name change
  named _ _ h := ⟨h.style, h.children⟩

end ConvertedElement

/-! ## Recursion on the document -/

theorem allConverted_admitted {content : Node} (h : AllConverted content) :
    AllConverted (admitted policy depth tag content) := by
  rw [admitted]
  split
  · exact allConverted_failed
  · split
    · exact h
    · exact allConverted_failed

mutual

theorem allConverted_fragment {depth : Nat} : ∀ s : Source,
    ∀ n ∈ s.fragment policy depth, AllConverted n
  | .ready v => allConverted_valueFragment v
  | .pending p => allConverted_pendingFragment p
termination_by structural s => s

theorem allConverted_pendingFragment {depth : Nat} : ∀ p : Pending,
    ∀ n ∈ p.fragment policy depth, AllConverted n
  | .deferred _ _ s => allConverted_fragment s
  | .failing _ _ _ => List.forall_mem_singleton.mpr allConverted_failed
  | .gate _ => List.forall_mem_singleton.mpr allConverted_failed
termination_by structural p => p

theorem allConverted_valueFragment {depth : Nat} : ∀ v : Value,
    ∀ n ∈ v.fragment policy depth, AllConverted n
  | .text _ => List.forall_mem_singleton.mpr allConverted_text
  | .mapping entries => allConverted_entries entries
  | .null | .boolean _ | .number _ | .list _ =>
    List.forall_mem_singleton.mpr allConverted_failed
termination_by structural v => v

theorem allConverted_content {depth : Nat} {tag : String} : ∀ s : Source,
    AllConverted (s.content policy depth tag)
  | .ready v => allConverted_valueContent v
  | .pending p => allConverted_pendingContent p
termination_by structural s => s

theorem allConverted_pendingContent {depth : Nat} {tag : String} : ∀ p : Pending,
    AllConverted (p.content policy depth tag)
  | .deferred _ _ s => allConverted_content s
  | .failing _ _ _ => allConverted_failed
  | .gate _ => allConverted_failed
termination_by structural p => p

theorem allConverted_valueContent {depth : Nat} {tag : String} : ∀ v : Value,
    AllConverted (v.content policy depth tag)
  | .text _ => (ConvertedElement.new.setText _).toNode
  | .list items => allConverted_element.mpr ⟨nofun, allConverted_items items⟩
  | .mapping entries => by
    rw [Value.content]
    cases all : built policy (depth + 1) (Element.new tag) entries with
    | error error => exact allConverted_failed
    | ok e =>
      have built := ConvertedElement.keptBySetting.built .new
        (fun n hn _ h => h.append (allConverted_entries entries n hn)) all
      exact built.toNode
  | .null | .boolean _ | .number _ => allConverted_failed
termination_by structural v => v

theorem allConverted_entries {depth : Nat} : ∀ entries : List (String × Source),
    ∀ n ∈ entriesNodes policy depth entries, AllConverted n
  | [] => nofun
  | (_, s) :: rest => List.forall_mem_cons.mpr
    ⟨allConverted_admitted (allConverted_content s), allConverted_entries rest⟩
termination_by structural entries => entries

theorem allConverted_items {depth : Nat} : ∀ items : List Source,
    ∀ n ∈ itemsNodes policy depth items, AllConverted n
  | [] => nofun
  | s :: rest => List.forall_mem_append.mpr ⟨allConverted_fragment s, allConverted_items rest⟩
termination_by structural items => items

end

/-- **Rendered names are converted names.** -/
theorem converted_of_rendered {source : Source} {n : Node} (h : Rendered policy source n) :
    AllConverted n := by
  obtain ⟨s, mem⟩ := h.mem_fragment
  exact allConverted_fragment s n mem

end JsonMarkup.Render
