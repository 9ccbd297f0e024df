import JsonMarkup.Proofs.Surface.Calls
import JsonMarkup.Web.Page

/-!
# Nodes of a page

The nodes that a page has handed out, as a list: a node stands in an element by its number.

**Layout** (`Node.onPage`, `onPageOf`). Which nodes a page hands out for an output node depends on
the node alone, on the first free number, and on what kind of elements the page creates. A node
comes before everything below it, and what is below it comes in document order.

**Closed lists** (`Web.Closed`). Only nodes stand in a closed list that are in it. Nodes that are
laid out behind a closed list stand in each other only, so the list stays closed, and the first of
them stands nowhere yet.
-/

namespace JsonMarkup

open Web (Setting Held Trait Item ElementKind)

namespace Web

/-! ## What elements are told -/

/-- What kind of element is created with a tag. -/
def Setting.kindOf (s : Setting) (tag : String) : ElementKind := (findField? tag s.kinds).getD .html

/-- What an element is told with raw style text, if there is some. -/
def rawTraits (kind : ElementKind) (css : Option String) : List Trait :=
  css.toList.map fun css => if kind = .plain then .attribute "style" css else .styleText css

def attributeTraits (attributes : List (String × String)) : List Trait :=
  attributes.map fun a => .attribute a.1 a.2

def propertyTraits (properties : List (String × String)) : List Trait :=
  properties.map fun s => .styleProperty s.1 s.2

/-! ## Where nodes stand -/

/-- What stands in a node. -/
def Held.items : Held → List Item
  | .text _ => []
  | .element _ _ items => items

/-- Only nodes stand in these nodes that are among them. -/
def Closed (nodes : List Held) : Prop :=
  ∀ h ∈ nodes, ∀ k, .node k ∈ h.items → k < nodes.length

/-- The nodes are still there, maybe with others behind them, and all are closed. -/
def Kept (before after : List Held) : Prop := before <+: after ∧ Closed after

/-- Nothing is taken out where the nodes do not stand. -/
theorem without_of_absent {numbers : List Nat} {h : Held}
    (absent : ∀ k ∈ numbers, .node k ∉ h.items) : h.without numbers = h := by
  cases h with
  | text content => rfl
  | element tag traits items =>
    rw [Held.without, Held.fill, List.filter_eq_self.mpr]
    intro item mem
    rw [Bool.not_eq_true', List.contains_eq_mem, decide_eq_false_iff_not, List.mem_map]
    rintro ⟨k, among, rfl⟩
    exact absent k among mem

theorem map_without_of_absent {numbers : List Nat} {nodes : List Held}
    (absent : ∀ h ∈ nodes, ∀ k ∈ numbers, .node k ∉ h.items) :
    nodes.map (·.without numbers) = nodes := by
  rw [List.map_congr_left fun h mem => without_of_absent (absent h mem)]
  exact List.map_id nodes

/-- Nodes behind the end of a closed list do not stand in it. -/
theorem Closed.absent {nodes : List Held} (closed : Closed nodes) {k : Nat}
    (behind : nodes.length ≤ k) : ∀ h ∈ nodes, .node k ∉ h.items := by
  intro h mem inside
  have := closed h mem k inside
  omega

theorem Closed.append {l r : List Held} (closed : Closed l)
    (inside : ∀ h ∈ r, ∀ k, .node k ∈ h.items → k < l.length + r.length) : Closed (l ++ r) := by
  intro h mem k stands
  rw [List.length_append]
  rcases List.mem_append.mp mem with old | new
  · have := closed h old k stands
    omega
  · exact inside h new k stands

/-- A list stays closed if other nodes of the list are put in one of its nodes. -/
theorem Closed.replace {l r : List Held} {h h' : Held} (closed : Closed (l ++ h :: r))
    (inside : ∀ k, .node k ∈ h'.items → k < (l ++ h :: r).length) : Closed (l ++ h' :: r) := by
  have length : (l ++ h' :: r).length = (l ++ h :: r).length := by simp
  intro x mem k stands
  rw [length]
  rcases List.mem_append.mp mem with before | other
  · exact closed x (List.mem_append_left _ before) k stands
  · rcases List.mem_cons.mp other with rfl | after
    · exact inside k stands
    · exact closed x (List.mem_append_right _ (List.mem_cons_of_mem _ after)) k stands

end Web

/-! ## Layout -/

/-- The numbers of nodes that are laid out one after the other, if `k` is the first number. -/
def numbersFrom (k : Nat) : List Node → List Nat
  | [] => []
  | n :: rest => k :: numbersFrom (k + n.handles) rest

mutual

/-- The nodes that a page hands out for an output node, if `k` is the first number. -/
def Node.onPage (s : Setting) (k : Nat) : Node → List Held
  | .text content => [.text content]
  | .error message =>
    [.element Node.errorTag (Web.propertyTraits Node.errorStyle)
      (if message = "" then [] else [.text message])]
  | .element tag attributes style children =>
    .element tag
      (Web.attributeTraits attributes.toList ++ Web.rawTraits (s.kindOf tag) style.text ++
        Web.propertyTraits style.properties.toList)
      ((numbersFrom (k + 1) children).map .node) ::
    onPageOf s (k + 1) children

/-- The nodes that a page hands out for output nodes, if `k` is the first number. -/
def onPageOf (s : Setting) (k : Nat) : List Node → List Held
  | [] => []
  | n :: rest => n.onPage s k ++ onPageOf s (k + n.handles) rest

end

variable {s : Setting}

mutual

theorem length_onPage (k : Nat) (n : Node) : (n.onPage s k).length = n.handles := by
  cases n with
  | text content => rfl
  | error message => rfl
  | element tag attributes style children =>
    rw [Node.onPage, List.length_cons, length_onPageOf (k + 1) children, Node.handles, Nat.add_comm]

theorem length_onPageOf (k : Nat) (nodes : List Node) :
    (onPageOf s k nodes).length = handlesOf nodes := by
  cases nodes with
  | nil => rfl
  | cons n rest =>
    rw [onPageOf, List.length_append, length_onPage k n, length_onPageOf (k + n.handles) rest,
      handlesOf]

end

theorem numbersFrom_within {k j : Nat} {nodes : List Node} (mem : j ∈ numbersFrom k nodes) :
    k ≤ j ∧ j < k + handlesOf nodes := by
  induction nodes generalizing k with
  | nil => cases mem
  | cons n rest ih =>
    have pos := Surface.Node.handles_pos n
    rw [handlesOf]
    rcases List.mem_cons.mp mem with rfl | later
    · omega
    · have := ih later
      omega

mutual

/-- The nodes that are laid out stand in each other, and the first of them in none. -/
theorem items_onPage (k : Nat) (n : Node) :
    ∀ h ∈ n.onPage s k, ∀ j, .node j ∈ h.items → k < j ∧ j < k + n.handles := by
  intro h mem j stands
  cases n with
  | text content =>
    rw [List.mem_singleton.mp mem] at stands
    cases stands
  | error message =>
    rw [List.mem_singleton.mp mem, Held.items] at stands
    split at stands
    · cases stands
    · cases List.mem_singleton.mp stands
  | element tag attributes style children =>
    rw [Node.handles]
    rcases List.mem_cons.mp mem with rfl | below
    · obtain ⟨i, among, same⟩ := List.mem_map.mp stands
      cases same
      have := numbersFrom_within among
      omega
    · have := items_onPageOf (k + 1) children h below j stands
      omega

theorem items_onPageOf (k : Nat) (nodes : List Node) :
    ∀ h ∈ onPageOf s k nodes, ∀ j, .node j ∈ h.items → k < j ∧ j < k + handlesOf nodes := by
  intro h mem j stands
  cases nodes with
  | nil => cases mem
  | cons n rest =>
    rw [handlesOf]
    rcases List.mem_append.mp mem with first | later
    · have := items_onPage k n h first j stands
      omega
    · have := items_onPageOf (k + n.handles) rest h later j stands
      omega

end

/-- None of the nodes that are laid out one after the other stands in another, or below it. -/
theorem absent_onPageOf (k : Nat) (nodes : List Node) :
    ∀ h ∈ onPageOf s k nodes, ∀ j ∈ numbersFrom k nodes, .node j ∉ h.items := by
  induction nodes generalizing k with
  | nil => exact List.forall_mem_nil _
  | cons n rest ih =>
    intro h mem j among stands
    rcases List.mem_append.mp mem with first | later
    · have within := items_onPage k n h first j stands
      rcases List.mem_cons.mp among with rfl | among
      · omega
      · have := numbersFrom_within among
        omega
    · have within := items_onPageOf (k + n.handles) rest h later j stands
      rcases List.mem_cons.mp among with rfl | among
      · omega
      · exact ih (k + n.handles) h later j among stands

variable {l : List Held}

theorem closed_append_onPage (closed : Web.Closed l) (n : Node) :
    Web.Closed (l ++ n.onPage s l.length) := by
  apply closed.append
  intro h mem k stands
  rw [length_onPage]
  exact (items_onPage l.length n h mem k stands).2

theorem closed_append_onPageOf (closed : Web.Closed l) (nodes : List Node) :
    Web.Closed (l ++ onPageOf s l.length nodes) := by
  apply closed.append
  intro h mem k stands
  rw [length_onPageOf]
  exact (items_onPageOf l.length nodes h mem k stands).2

/-- A node that has just been laid out stands nowhere. -/
theorem absent_append_onPage (closed : Web.Closed l) (n : Node) :
    ∀ h ∈ l ++ n.onPage s l.length, .node l.length ∉ h.items := by
  intro h mem stands
  rcases List.mem_append.mp mem with old | new
  · exact closed.absent (Nat.le_refl _) h old stands
  · have := items_onPage l.length n h new l.length stands
    omega

/-- Nodes that have just been laid out one after the other do not stand in what was there before,
and none of them stands in another. -/
theorem absent_append_onPageOf (closed : Web.Closed l) (nodes : List Node) :
    ∀ h ∈ l ++ onPageOf s l.length nodes, ∀ k ∈ numbersFrom l.length nodes, .node k ∉ h.items := by
  intro h mem k among stands
  rcases List.mem_append.mp mem with old | new
  · exact closed.absent (numbersFrom_within among).1 h old stands
  · exact absent_onPageOf l.length nodes h new k among stands

end JsonMarkup
