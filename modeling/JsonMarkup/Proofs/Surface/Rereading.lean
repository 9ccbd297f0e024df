import JsonMarkup.Proofs.Css.Conversion
import JsonMarkup.Proofs.Render.Converted
import JsonMarkup.Proofs.Surface.Mounting
import JsonMarkup.Proofs.Web.Building

/-!
# Styles that are read back

A memory converts the names of style properties when they are set; a page is told them as they are.
The names in rendered nodes have been converted before, so what a memory gives back is the style
that it was given only if a second conversion keeps the names.

**Theorem (`styles_read_back`).** A rendered node is built in every memory, and its snapshot has the
styles of the node exactly if all property names in the node are settled: in style-sheet form, or a
single word. Names whose capitals all have lower-case forms are settled by their conversion, and all
names are by a second one. A page that builds the node is told its styles, whatever the names are.
-/

namespace JsonMarkup

open Render Css

/-! ## The styles of a node -/

mutual

/-- The style properties of the elements in a node, in document order. -/
def Node.stylings : Node → List (List (String × String))
  | .text _ | .error _ => []
  | .element _ _ style children => style.properties.toList :: stylingsOf children

/-- The style properties of the elements in nodes, in document order. -/
def stylingsOf : List Node → List (List (String × String))
  | [] => []
  | n :: rest => n.stylings ++ stylingsOf rest

end

/-! ## In a memory -/

/-- Setting all properties again keeps them exactly if their names stay as they are. -/
theorem remade_toList_iff {style : Style} :
    style.remade.properties.toList = style.properties.toList ↔
      ∀ name ∈ style.properties.names, propertyName name = name := by
  refine ⟨fun same => ?_, fun named => by rw [remade_eq named]⟩
  let names := style.properties.names
  have converted : (style.properties.toList.map fun p => (propertyName p.1, p.2)).map Prod.fst =
      names.map propertyName := by
    simp only [names, Fields.names, List.map_map]
    rfl
  have again : (names.map propertyName).eraseDups = names := by
    rw [← converted, ← (Fields.lists_ofList _).names]
    rw [remade_eq_ofList] at same
    exact congrArg (List.map Prod.fst) same
  -- No two names fall together, since that would leave fewer of them.
  have sublist := eraseDups_sublist (names.map propertyName)
  rw [again] at sublist
  have kept : names.map propertyName = names.map id := by
    rw [List.map_id]
    exact (sublist.eq_of_length (List.length_map _).symm).symm
  exact List.map_inj_left.mp kept

mutual

theorem length_stylings_reread : ∀ n : Node, n.reread.stylings.length = n.shown.stylings.length
  | .text _ | .error _ => rfl
  | .element _ _ _ children => congrArg (· + 1) (length_stylingsOf_reread children)

theorem length_stylingsOf_reread : ∀ nodes : List Node,
    (stylingsOf (rereadOf nodes)).length = (stylingsOf (shownOf nodes)).length
  | [] => rfl
  | n :: rest => by
    rw [rereadOf, shownOf, stylingsOf, stylingsOf, List.length_append, List.length_append,
      length_stylings_reread n, length_stylingsOf_reread rest]

end

mutual

/-- The styles come back exactly if all property names stay as they are. -/
theorem stylings_reread_iff : ∀ n : Node, n.reread.stylings = n.shown.stylings ↔
    ∀ name ∈ n.propertyNames, propertyName name = name
  | .text _ | .error _ => iff_of_true rfl nofun
  | .element tag attributes style children => by
    rw [Node.reread, Node.shown, Node.stylings, Node.stylings, List.cons.injEq, remade_toList_iff,
      stylingsOf_reread_iff children, Node.propertyNames, List.forall_mem_append]

theorem stylingsOf_reread_iff : ∀ nodes : List Node,
    stylingsOf (rereadOf nodes) = stylingsOf (shownOf nodes) ↔
      ∀ name ∈ propertyNamesOf nodes, propertyName name = name
  | [] => iff_of_true rfl nofun
  | n :: rest => by
    have apart : n.reread.stylings ++ stylingsOf (rereadOf rest) =
        n.shown.stylings ++ stylingsOf (shownOf rest) ↔
          n.reread.stylings = n.shown.stylings ∧
            stylingsOf (rereadOf rest) = stylingsOf (shownOf rest) :=
      ⟨fun h => List.append_inj h (length_stylings_reread n), fun h => by rw [h.1, h.2]⟩
    rw [rereadOf, shownOf, stylingsOf, stylingsOf, apart, stylings_reread_iff n,
      stylingsOf_reread_iff rest, propertyNamesOf, List.forall_mem_append]

end

/-- A node with valid names is built, and read back with every style made again. -/
theorem Memory.realize_reread (m : Memory) {n : Node}
    (valid : ∀ name ∈ n.names, Text.isName name = true) :
    ∃ id m', Memory.surface.realize n m = .ok id m' ∧ m'.snapshot id = .ok n.reread := by
  obtain ⟨l, rfl⟩ : ∃ l, m = of l := ⟨m.slots.toList, rfl⟩
  have held : (of (l ++ n.layout l.length)).Holds l.length (n.layout l.length) :=
    ⟨l, [], by rw [List.append_nil]; rfl, rfl⟩
  have size : (of (l ++ n.layout l.length)).size = l.length + n.slots :=
    List.length_append.trans (congrArg _ (length_layout _ n))
  refine ⟨⟨l.length⟩, _, realize_of valid, snapshotWithin_layout_reread held ?_⟩
  rw [size]
  omega

/-! ## In a page -/

namespace Web

/-- The style property that an element is told, if it is told one. -/
def Trait.property? : Trait → Option (String × String)
  | .styleProperty name value => some (name, value)
  | _ => none

/-- The style properties that an element has been told, in order. -/
def Held.styling? : Held → Option (List (String × String))
  | .text _ => none
  | .element _ traits _ => some (traits.filterMap Trait.property?)

/-- The style properties that the elements from number `k` on have been told. -/
def Page.stylingsFrom (p : Page) (k : Nat) : List (List (String × String)) :=
  (p.nodes.toList.drop k).filterMap Held.styling?

theorem filterMap_propertyTraits (properties : List (String × String)) :
    (propertyTraits properties).filterMap Trait.property? = properties := by
  rw [propertyTraits, List.filterMap_map]
  exact List.filterMap_some

theorem filterMap_attributeTraits (attributes : List (String × String)) :
    (attributeTraits attributes).filterMap Trait.property? = [] := by
  rw [attributeTraits, List.filterMap_map]
  exact List.filterMap_eq_nil_iff.mpr fun _ _ => rfl

theorem filterMap_rawTraits (kind : ElementKind) (css : Option String) :
    (rawTraits kind css).filterMap Trait.property? = [] := by
  cases css with
  | none => rfl
  | some css => cases kind <;> rfl

end Web

mutual

/-- A page is told the styles of a node as they are. -/
theorem stylings_onPage {s : Web.Setting} : ∀ (k : Nat) (n : Node),
    (n.onPage s k).filterMap Web.Held.styling? = n.shown.stylings
  | _, .text _ => rfl
  | _, .error message => by
    have inside : stylingsOf (if message = "" then [] else [.text message]) = [] := by
      split <;> rfl
    rw [Node.onPage, Node.shown, Node.stylings, inside]
    rfl
  | k, .element tag attributes style children => by
    rw [Node.onPage, Node.shown, Node.stylings, List.filterMap_cons, Web.Held.styling?,
      List.filterMap_append, List.filterMap_append, Web.filterMap_attributeTraits,
      Web.filterMap_rawTraits, Web.filterMap_propertyTraits, ← stylings_onPageOf (k + 1) children]
    rfl

theorem stylings_onPageOf {s : Web.Setting} : ∀ (k : Nat) (nodes : List Node),
    (onPageOf s k nodes).filterMap Web.Held.styling? = stylingsOf (shownOf nodes)
  | _, [] => rfl
  | k, n :: rest => by
    rw [onPageOf, shownOf, stylingsOf, List.filterMap_append, stylings_onPage k n,
      stylings_onPageOf (k + n.handles) rest]

end

/-- A page that has built a node has been told its styles. -/
theorem stylingsFrom_realize {p q : Web.Page} {n : Node} {node : Web.Node}
    (closed : Web.Closed p.nodes.toList) (built : Web.Page.surface.realize n p = .ok node q) :
    q.stylingsFrom p.nodes.size = n.shown.stylings := by
  have does := Web.Page.does_realize n rfl closed (Nat.le_refl _)
  rw [built] at does
  obtain ⟨-, -, nodes⟩ := does
  rw [Web.Page.stylingsFrom, nodes, ← Array.length_toList, List.drop_left, stylings_onPage]

/-! ## The theorem -/

namespace Memory

/-- **Styles are read back if their names are settled**, and pages are told them in any case. -/
theorem styles_read_back {policy : Policy} {source : Source} {n : Node} (name : String)
    (rendered : Rendered policy source n) :
    (propertyName (propertyName name) = propertyName name ↔ Settled (propertyName name).toList) ∧
    ((∀ c ∈ name.toList, Unicode.isUppercase c = true → Unicode.toLower c ≠ [c]) →
      Settled (propertyName name).toList) ∧
    Settled (propertyName (propertyName name)).toList ∧
    (∀ name ∈ n.propertyNames, IsConverted name) ∧
    (∀ m, ∃ id m' tree, surface.realize n m = .ok id m' ∧ m'.snapshot id = .ok tree ∧
      (tree.stylings = n.shown.stylings ↔ ∀ name ∈ n.propertyNames, Settled name.toList)) ∧
    ∀ p node q, Web.Closed p.nodes.toList → Web.Page.surface.realize n p = .ok node q →
      q.stylingsFrom p.nodes.size = n.shown.stylings := by
  have converted := converted_of_rendered rendered
  refine ⟨propertyName_idempotent_iff name, settled_of_lowerable, settled_again name, converted,
    fun m => ?_, fun p node q closed built => stylingsFrom_realize closed built⟩
  have valid : ∀ name ∈ n.names, Text.isName name = true :=
    isName_of_wellNamed (wellNamed_of_soundAt rendered.sound)
  obtain ⟨id, m', made, reread⟩ := m.realize_reread valid
  refine ⟨id, m', n.reread, made, reread, (stylings_reread_iff n).trans ?_⟩
  refine forall_congr' fun name => forall_congr' fun hname => ?_
  obtain ⟨raw, rfl⟩ := converted name hname
  exact propertyName_idempotent_iff raw

/-- A paragraph with one style property. -/
def styled (name : String) : Source :=
  .mapping [("p", .mapping [("$style", .mapping [(name, .text "none")])])]

def styledNode (name : String) : Node :=
  .element "p" Fields.empty ⟨none, .ofList [(propertyName name, "none")]⟩ []

theorem rendered_styled {name : String} (named : name ≠ "") :
    Rendered .standard (styled name) (styledNode name) := by
  have noGates : NoGates ((styled name).mentions ·) := fun _ => rfl
  have allowed : Policy.standard.check "p" 0 = .ok () := rfl
  have merged : merged (Element.new "p") [(name, .text "none")] =
      .ok ⟨"p", Fields.empty, ⟨none, .ofList [(propertyName name, "none")]⟩, #[]⟩ := by
    rw [Render.merged, if_neg named]
    rfl
  have applied : applied (Element.new "p") "style" (.mapping [(name, .text "none")]) = _ := merged
  have node : tagNode .standard 0 "p" (.mapping [("$style", .mapping [(name, .text "none")])]) =
      styledNode name := by
    rw [tagNode, admitted, allowed]
    show finished (Render.applied _ "style" _ >>= _) = _
    rw [applied]
    rfl
  refine .inr ?_
  rw [styled, renderNodes_mapping noGates, List.map_singleton, node]
  exact List.mem_singleton_self _

/-- A page without nodes. -/
def blankPage : Web.Page := { setting := {} }

/-- A vendor's property comes back under its style-sheet name, and a page is told it. -/
theorem transition_read_back :
    (∀ c ∈ "WebkitTransition".toList, Unicode.isUppercase c = true → Unicode.toLower c ≠ [c]) ∧
      Rendered .standard (styled "WebkitTransition") (styledNode "WebkitTransition") ∧
      (∃ id m' tree, surface.realize (styledNode "WebkitTransition") empty = .ok id m' ∧
        m'.snapshot id = .ok tree ∧ tree.stylings = [[("-webkit-transition", "none")]]) ∧
      Web.Closed blankPage.nodes.toList ∧
      ∃ node q, Web.Page.surface.realize (styledNode "WebkitTransition") blankPage = .ok node q ∧
        q.stylingsFrom 0 = [[("-webkit-transition", "none")]] := by
  have capitals : ∀ c ∈ "WebkitTransition".toList, Unicode.isUppercase c = true →
      Unicode.toLower c ≠ [c] := by
    have all : "WebkitTransition".toList.all
        (fun c => !Unicode.isUppercase c || Unicode.toLower c != [c]) = true := by decide +kernel
    intro c hc capital
    have lowered := List.all_eq_true.mp all c hc
    simpa [capital] using lowered
  have rendered := rendered_styled (show "WebkitTransition" ≠ "" by decide)
  have closed : Web.Closed blankPage.nodes.toList := nofun
  have stylings : (styledNode "WebkitTransition").shown.stylings =
      [[("-webkit-transition", "none")]] := by decide +kernel
  obtain ⟨-, lowerable, -, -, readBack, told⟩ := styles_read_back "WebkitTransition" rendered
  refine ⟨capitals, rendered, ?_, closed, ?_⟩
  · obtain ⟨id, m', tree, made, shown, same⟩ := readBack empty
    refine ⟨id, m', tree, made, shown, (same.mpr ?_).trans stylings⟩
    intro name hname
    rw [List.mem_singleton.mp hname]
    exact lowerable capitals
  · obtain ⟨node, q, built⟩ : ∃ node q,
        Web.Page.surface.realize (styledNode "WebkitTransition") blankPage = .ok node q :=
      ⟨_, _, rfl⟩
    exact ⟨node, q, built, (told _ _ _ closed built).trans stylings⟩

/-- A capital for mathematics has no lower-case form, and is cut off from the letter before it only
once that has become small: the name that is read back is not the one that was rendered. -/
theorem mathematical_not_read_back :
    propertyName "A𝐀" = "a𝐀" ∧ propertyName (propertyName "A𝐀") = "a-𝐀" ∧
      Rendered .standard (styled "A𝐀") (styledNode "A𝐀") ∧
      (styledNode "A𝐀").shown.stylings = [[("a𝐀", "none")]] ∧
      ∃ id m' tree, surface.realize (styledNode "A𝐀") empty = .ok id m' ∧
        m'.snapshot id = .ok tree ∧ tree.stylings = [[("a-𝐀", "none")]] := by
  have rendered := rendered_styled (show "A𝐀" ≠ "" by decide)
  have valid : ∀ name ∈ (styledNode "A𝐀").names, Text.isName name = true := by decide
  refine ⟨by decide +kernel, by decide +kernel, rendered, by decide +kernel, ?_⟩
  obtain ⟨id, m', made, reread⟩ := empty.realize_reread valid
  exact ⟨id, m', _, made, reread, by decide +kernel⟩

end Memory

end JsonMarkup
