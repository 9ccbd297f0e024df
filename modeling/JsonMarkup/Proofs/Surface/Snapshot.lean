import JsonMarkup.Proofs.Fields
import JsonMarkup.Surface.Memory

/-!
# Nodes in memory and back

Building a node in a memory appends slots to it, and writes to no others. What is appended is known
before: the node's own slot, then those of its children, each child with all that is below it
(`Node.layout`). The slots refer to each other by number, so they depend on the number of the first.

**Theorem (`snapshot_realize`).** A node with valid names is built, and its snapshot is the node
itself, with an element in the place of each error node. What is reached from it is what has been
added, each slot once. A node with an invalid name is refused because of the first of them. Either
way the slots that were there before stay as they were.
-/

namespace JsonMarkup

/-! ## Nodes as they are shown -/

mutual

/-- The tags and the names of attributes in a node, depth-first. -/
def Node.names : Node → List String
  | .text _ | .error _ => []
  | .element tag attributes _ children => tag :: attributes.names ++ namesOf children

/-- The tags and the names of attributes in nodes, depth-first. -/
def namesOf : List Node → List String
  | [] => []
  | n :: rest => n.names ++ namesOf rest

end

mutual

/-- The names of style properties in a node. -/
def Node.propertyNames : Node → List String
  | .text _ | .error _ => []
  | .element _ _ style children => style.properties.names ++ propertyNamesOf children

/-- The names of style properties in nodes. -/
def propertyNamesOf : List Node → List String
  | [] => []
  | n :: rest => n.propertyNames ++ propertyNamesOf rest

end

/-- The style that error nodes are shown in. -/
def errorStyle : Style := ⟨none, .ofList Node.errorStyle⟩

mutual

/-- The node with an element in the place of each error node. -/
def Node.shown : Node → Node
  | .text content => .text content
  | .error message =>
    .element Node.errorTag Fields.empty errorStyle (if message = "" then [] else [.text message])
  | .element tag attributes style children => .element tag attributes style (shownOf children)

/-- The nodes with an element in the place of each error node. -/
def shownOf : List Node → List Node
  | [] => []
  | n :: rest => n.shown :: shownOf rest

end

/-! ## Layout -/

mutual

/-- How many slots a node takes. -/
def Node.slots : Node → Nat
  | .text _ => 1
  | .error message => if message = "" then 1 else 2
  | .element _ _ _ children => slotsOf children + 1

/-- How many slots nodes take. -/
def slotsOf : List Node → Nat
  | [] => 0
  | n :: rest => n.slots + slotsOf rest

end

/-- Where nodes stand if the first slot is number `k`. -/
def idsFrom (k : Nat) : List Node → List NodeId
  | [] => []
  | n :: rest => ⟨k⟩ :: idsFrom (k + n.slots) rest

/-- The style that setting everything in a style again gives. -/
def Style.remade (style : Style) : Style :=
  style.properties.toList.foldl (fun s p => s.setProperty p.1 p.2) ⟨style.text, Fields.empty⟩

mutual

/-- The slots of a node if the first is number `k`. -/
def Node.layout (k : Nat) : Node → List Slot
  | .text content => [.text content]
  | .error message =>
    if message = "" then [.element Node.errorTag Fields.empty errorStyle []]
    else [.element Node.errorTag Fields.empty errorStyle [⟨k + 1⟩], .text message]
  | .element tag attributes style children =>
    .element tag attributes style.remade (idsFrom (k + 1) children) :: layoutOf (k + 1) children

/-- The slots of nodes if the first is number `k`. -/
def layoutOf (k : Nat) : List Node → List Slot
  | [] => []
  | n :: rest => n.layout k ++ layoutOf (k + n.slots) rest

end

theorem Node.slots_pos (n : Node) : 0 < n.slots := by
  cases n with
  | text content => exact Nat.one_pos
  | error message =>
    rw [Node.slots]
    split <;> decide
  | element tag attributes style children => exact Nat.succ_pos _

mutual

theorem length_layout (k : Nat) : ∀ n : Node, (n.layout k).length = n.slots
  | .text _ => rfl
  | .error message => by
    rw [Node.layout, Node.slots]
    split <;> rfl
  | .element _ _ _ children => congrArg (· + 1) (length_layoutOf (k + 1) children)

theorem length_layoutOf (k : Nat) : ∀ nodes : List Node, (layoutOf k nodes).length = slotsOf nodes
  | [] => rfl
  | n :: rest => by
    rw [layoutOf, slotsOf, List.length_append, length_layout k n, length_layoutOf _ rest]

end

/-- Setting everything in a style again sets each property under its style-sheet name. -/
theorem remade_eq_ofList (style : Style) : style.remade = ⟨style.text,
    .ofList (style.properties.toList.map fun p => (Css.propertyName p.1, p.2))⟩ := by
  have merged : ∀ (es : List (String × String)) (text : Option String) (fs : Fields String),
      es.foldl (fun s p => s.setProperty p.1 p.2) (⟨text, fs⟩ : Style) =
        ⟨text, (es.map fun p => (Css.propertyName p.1, p.2)).foldl
          (fun fs e => fs.set e.1 e.2) fs⟩ := by
    intro es text
    induction es with
    | nil => exact fun _ => rfl
    | cons e rest ih => exact fun fs => ih (fs.set (Css.propertyName e.1) e.2)
  exact merged _ _ _

/-- A style whose properties have style-sheet names is made again as it is. -/
theorem remade_eq {style : Style}
    (h : ∀ name ∈ style.properties.names, Css.propertyName name = name) : style.remade = style := by
  have same : style.properties.toList.map (fun p => (Css.propertyName p.1, p.2)) =
      style.properties.toList := by
    refine (List.map_congr_left fun p hp => ?_).trans (List.map_id _)
    rw [h p.1 (List.mem_map_of_mem hp)]
    rfl
  rw [remade_eq_ofList, same, Fields.ofList_toList]

mutual

/-- The node as it is shown, with every style made again. -/
def Node.reread : Node → Node
  | .text content => .text content
  | .error message => (Node.error message).shown
  | .element tag attributes style children =>
    .element tag attributes style.remade (rereadOf children)

/-- The nodes as they are shown, with every style made again. -/
def rereadOf : List Node → List Node
  | [] => []
  | n :: rest => n.reread :: rereadOf rest

end

mutual

theorem reread_eq_shown : ∀ {n : Node},
    (∀ name ∈ n.propertyNames, Css.propertyName name = name) → n.reread = n.shown
  | .text _, _ | .error _, _ => rfl
  | .element tag attributes style children, named => by
    rw [Node.propertyNames, List.forall_mem_append] at named
    rw [Node.reread, Node.shown, remade_eq named.1, rereadOf_eq_shownOf named.2]

theorem rereadOf_eq_shownOf : ∀ {nodes : List Node},
    (∀ name ∈ propertyNamesOf nodes, Css.propertyName name = name) → rereadOf nodes = shownOf nodes
  | [], _ => rfl
  | n :: rest, named => by
    rw [propertyNamesOf, List.forall_mem_append] at named
    rw [rereadOf, shownOf, reread_eq_shown named.1, rereadOf_eq_shownOf named.2]

end

namespace Memory

/-! ## Slots that stand in a memory -/

/-- These slots stand in the memory from number `k` on. -/
def Holds (m : Memory) (k : Nat) (slots : List Slot) : Prop :=
  ∃ before after, m.slots.toList = before ++ (slots ++ after) ∧ before.length = k

variable {m : Memory} {k : Nat}

theorem Holds.slot {x : Slot} {rest : List Slot} (h : m.Holds k (x :: rest)) :
    m.slot ⟨k⟩ = .ok x := by
  obtain ⟨before, after, split, rfl⟩ := h
  have found : m.slots[before.length]? = some x := by
    rw [← Array.getElem?_toList, split]
    simp
  rw [Memory.slot, found]

theorem Holds.left {xs ys : List Slot} (h : m.Holds k (xs ++ ys)) : m.Holds k xs := by
  obtain ⟨before, after, split, rfl⟩ := h
  exact ⟨before, ys ++ after, by rw [split, List.append_assoc], rfl⟩

theorem Holds.right {xs ys : List Slot} (h : m.Holds k (xs ++ ys)) :
    m.Holds (k + xs.length) ys := by
  obtain ⟨before, after, split, rfl⟩ := h
  exact ⟨before ++ xs, after, by rw [split, List.append_assoc, List.append_assoc],
    List.length_append⟩

theorem Holds.tail {x : Slot} {rest : List Slot} (h : m.Holds k (x :: rest)) :
    m.Holds (k + 1) rest := by
  have split : m.Holds k ([x] ++ rest) := h
  exact split.right

/-! ## Snapshots -/

theorem snapshotWithin_text {id : NodeId} {content : String} {levels : Nat}
    (h : m.slot id = .ok (.text content)) (deep : 0 < levels) :
    m.snapshotWithin levels id = .ok (.text content) := by
  obtain ⟨levels, rfl⟩ := Nat.exists_eq_add_of_lt deep
  rw [Nat.zero_add, snapshotWithin, h]

theorem snapshotWithin_element {id : NodeId} {tag : String} {attributes : Fields String}
    {style : Style} {children : List NodeId} {nodes : List Node} {levels : Nat}
    (h : m.slot id = .ok (.element tag attributes style children))
    (below : children.mapM (m.snapshotWithin levels) = .ok nodes) :
    m.snapshotWithin (levels + 1) id = .ok (.element tag attributes style nodes) := by
  rw [snapshotWithin, h]
  dsimp only
  rw [below]

mutual

/-- The snapshot of a node that is laid out is the node with every style made again. -/
theorem snapshotWithin_layout_reread {k levels : Nat} : ∀ {n : Node}, m.Holds k (n.layout k) →
    n.slots ≤ levels → m.snapshotWithin levels ⟨k⟩ = .ok n.reread
  | .text _, held, deep => snapshotWithin_text held.slot deep
  | .error message, held, deep => by
    rw [Node.layout] at held
    rw [Node.slots] at deep
    rw [Node.reread, Node.shown]
    split
    · rename_i empty
      rw [if_pos empty] at held deep
      obtain ⟨levels, rfl⟩ := Nat.exists_eq_add_of_le' deep
      exact snapshotWithin_element held.slot rfl
    · rename_i notEmpty
      rw [if_neg notEmpty] at held deep
      obtain ⟨levels, rfl⟩ := Nat.exists_eq_add_of_le' deep
      refine snapshotWithin_element held.slot ?_
      rw [List.mapM_cons, snapshotWithin_text held.tail.slot (Nat.succ_pos levels)]
      rfl
  | .element tag attributes style children, held, deep => by
    obtain ⟨levels, rfl⟩ := Nat.exists_eq_add_of_le' (Nat.le_trans (Nat.le_add_left 1 _) deep)
    rw [Node.layout] at held
    exact snapshotWithin_element held.slot
      (snapshots_layout_reread held.tail (Nat.le_of_succ_le_succ deep))

theorem snapshots_layout_reread {k levels : Nat} : ∀ {nodes : List Node},
    m.Holds k (layoutOf k nodes) → slotsOf nodes ≤ levels →
    (idsFrom k nodes).mapM (m.snapshotWithin levels) = .ok (rereadOf nodes)
  | [], _, _ => rfl
  | n :: rest, held, deep => by
    rw [layoutOf] at held
    rw [slotsOf] at deep
    have later := held.right
    rw [length_layout] at later
    rw [idsFrom, List.mapM_cons, snapshotWithin_layout_reread held.left (by omega),
      snapshots_layout_reread later (by omega)]
    rfl

end

/-- The snapshot of a node that is laid out is the node as it is shown. -/
theorem snapshotWithin_layout {k levels : Nat} {n : Node} (held : m.Holds k (n.layout k))
    (named : ∀ name ∈ n.propertyNames, Css.propertyName name = name) (deep : n.slots ≤ levels) :
    m.snapshotWithin levels ⟨k⟩ = .ok n.shown := by
  rw [snapshotWithin_layout_reread held deep, reread_eq_shown named]

/-! ## What is reached -/

mutual

/-- Going down from a node meets these slots, in this order. -/
inductive Visits (m : Memory) : NodeId → List NodeId → Prop
  | text {id : NodeId} {content : String} : m.slot id = .ok (.text content) → Visits m id [id]
  | element {id : NodeId} {tag : String} {attributes : Fields String} {style : Style}
    {children met : List NodeId} : m.slot id = .ok (.element tag attributes style children) →
    VisitsAll m children met → Visits m id (id :: met)

/-- Going down from one node after the other meets these slots, in this order. -/
inductive VisitsAll (m : Memory) : List NodeId → List NodeId → Prop
  | nil : VisitsAll m [] []
  | cons {id : NodeId} {rest met later : List NodeId} : Visits m id met →
    VisitsAll m rest later → VisitsAll m (id :: rest) (met ++ later)

end

/-- The names of `n` slots from number `k` on. -/
def idRange (k n : Nat) : List NodeId := (List.range' k n).map NodeId.mk

theorem idRange_succ (k n : Nat) : idRange k (n + 1) = ⟨k⟩ :: idRange (k + 1) n := rfl

theorem idRange_add (k m n : Nat) : idRange k (m + n) = idRange k m ++ idRange (k + m) n := by
  rw [idRange, ← List.range'_append_1, List.map_append]
  rfl

mutual

/-- From a node that is laid out all its slots are met, in the order in which they stand. -/
theorem visits_layout {k : Nat} : ∀ {n : Node}, m.Holds k (n.layout k) →
    Visits m ⟨k⟩ (idRange k n.slots)
  | .text _, held => .text held.slot
  | .error message, held => by
    rw [Node.layout] at held
    rw [Node.slots]
    split
    · rename_i empty
      rw [if_pos empty] at held
      exact .element held.slot .nil
    · rename_i notEmpty
      rw [if_neg notEmpty] at held
      exact .element held.slot (.cons (.text held.tail.slot) .nil)
  | .element tag attributes style children, held => by
    rw [Node.slots, idRange_succ]
    exact .element held.slot (visits_layoutOf held.tail)

theorem visits_layoutOf {k : Nat} : ∀ {nodes : List Node}, m.Holds k (layoutOf k nodes) →
    VisitsAll m (idsFrom k nodes) (idRange k (slotsOf nodes))
  | [], _ => .nil
  | n :: rest, held => by
    rw [layoutOf] at held
    have later := held.right
    rw [length_layout] at later
    rw [slotsOf, idRange_add]
    exact .cons (visits_layout held.left) (visits_layoutOf later)

end

/-! ## Calls on a memory -/

/-- A memory with these slots. -/
def of (l : List Slot) : Memory := ⟨l.toArray⟩

theorem holds_of (l slots r : List Slot) : (of (l ++ (slots ++ r))).Holds l.length slots :=
  ⟨l, r, rfl, rfl⟩

theorem slot_of (l : List Slot) (x : Slot) (r : List Slot) :
    (of (l ++ x :: r)).slot ⟨l.length⟩ = .ok x := (holds_of l [x] r).slot

variable {l r : List Slot} {tag : String} {attributes : Fields String} {style : Style}
  {children : List NodeId}

/-- A change of an element writes to its slot alone. -/
theorem modify_of (f : Fields String → Style → List NodeId → Fields String × Style × List NodeId) :
    (of (l ++ .element tag attributes style children :: r)).modify ⟨l.length⟩ f =
      .ok (of (l ++ .element tag (f attributes style children).1 (f attributes style children).2.1
        (f attributes style children).2.2 :: r)) := by
  rw [modify, slot_of]
  dsimp only
  rw [of, List.setIfInBounds_toArray]
  simp [of]

theorem allocate_of (x : Slot) : (of l).allocate x = (⟨l.length⟩, of (l ++ [x])) := by
  simp [allocate, of, size]

theorem createElement_of (tag : String) : surface.createElement tag (of l) =
    if Text.isName tag then .ok ⟨l.length⟩ (of (l ++ [.element tag Fields.empty Style.empty []]))
    else .error (.invalidName tag) (of l) := by
  simp only [surface, call, createElement, createRoot, allocate_of]
  cases Text.isName tag <;> rfl

theorem createTextNode_of (text : String) :
    surface.createTextNode text (of l) = .ok ⟨l.length⟩ (of (l ++ [.text text])) := by
  simp only [surface, call, createTextNode, allocate_of]

theorem setAttribute_of (name value : String) :
    surface.setAttribute ⟨l.length⟩ name value
        (of (l ++ .element tag attributes style children :: r)) =
      if Text.isName name then
        .ok () (of (l ++ .element tag (attributes.set name value) style children :: r))
      else .error (.invalidName name) (of (l ++ .element tag attributes style children :: r)) := by
  simp only [surface, update, call, setAttribute]
  cases Text.isName name with
  | true =>
    rw [if_pos rfl, if_pos rfl, modify_of]
    rfl
  | false => rfl

theorem setStyleText_of (css : String) :
    surface.setStyleText ⟨l.length⟩ css (of (l ++ .element tag attributes style children :: r)) =
      .ok () (of (l ++ .element tag attributes (style.setText css) children :: r)) := by
  simp only [surface, update, call, setStyleText, modify_of]
  rfl

theorem setStyleProperty_of (name value : String) :
    surface.setStyleProperty ⟨l.length⟩ name value
        (of (l ++ .element tag attributes style children :: r)) =
      .ok () (of (l ++ .element tag attributes (style.setProperty name value) children :: r)) := by
  simp only [surface, update, call, setStyleProperty, modify_of]
  rfl

theorem setTextContent_of (text : String) :
    surface.setTextContent ⟨l.length⟩ text (of (l ++ [.element tag attributes style children])) =
      .ok () (of (l ++ if text = "" then [.element tag attributes style []]
        else [.element tag attributes style [⟨l.length + 1⟩], .text text])) := by
  have found : (of (l ++ [.element tag attributes style children])).children ⟨l.length⟩ =
      .ok children := by
    rw [Memory.children, slot_of]
  have written : (of (l ++ [.element tag attributes style children])).setTextContent ⟨l.length⟩
      text = .ok (of (l ++ if text = "" then [.element tag attributes style []]
        else [.element tag attributes style [⟨l.length + 1⟩], .text text])) := by
    rw [setTextContent, found]
    dsimp only
    split
    · exact modify_of _
    · rw [createTextNode, allocate_of, List.append_assoc, List.length_append]
      exact modify_of _
  simp only [surface, update, call, written]
  rfl

theorem appendChild_of {id : NodeId} {x : Slot}
    (h : (of (l ++ .element tag attributes style children :: r)).slot id = .ok x) :
    surface.appendChild ⟨l.length⟩ id (of (l ++ .element tag attributes style children :: r)) =
      .ok () (of (l ++ .element tag attributes style (children ++ [id]) :: r)) := by
  simp only [surface, update, call, appendChild, h, modify_of]
  rfl

/-! ## Building -/

section

variable {ε σ α β : Type} {x : EStateM ε σ α} {f : α → EStateM ε σ β} {s s' : σ}

theorem bind_of_ok {a : α} (h : x s = .ok a s') : (x >>= f) s = f a s' := by
  simp only [bind, EStateM.bind, h]

theorem bind_of_error {e : ε} (h : x s = .error e s') : (x >>= f) s = .error e s' := by
  simp only [bind, EStateM.bind, h]

end

/-- The first name that is not valid. -/
def firstInvalid? (names : List String) : Option String :=
  names.find? fun name => !Text.isName name

theorem firstInvalid?_cons (name : String) (rest : List String) :
    firstInvalid? (name :: rest) = if Text.isName name then firstInvalid? rest else some name := by
  rw [firstInvalid?, List.find?_cons]
  cases Text.isName name <;> rfl

theorem firstInvalid?_append (names more : List String) :
    firstInvalid? (names ++ more) = (firstInvalid? names).or (firstInvalid? more) :=
  List.find?_append

/-- The names of an element are all valid, or the first that is not is its tag, the name of an
attribute, or one below. -/
theorem firstInvalid?_element (tag : String) (names more : List String) :
    firstInvalid? (tag :: names ++ more) =
      if Text.isName tag then (firstInvalid? names).or (firstInvalid? more) else some tag := by
  rw [List.cons_append, firstInvalid?_cons, firstInvalid?_append]

theorem firstInvalid?_eq_none_iff {names : List String} :
    firstInvalid? names = none ↔ ∀ name ∈ names, Text.isName name = true := by
  simp [firstInvalid?]

theorem setAttributes_of {es : List (String × String)}
    (valid : ∀ name ∈ es.map Prod.fst, Text.isName name = true) :
    surface.setAttributes ⟨l.length⟩ es (of (l ++ .element tag attributes style children :: r)) =
      .ok () (of (l ++ .element tag (es.foldl (fun fs e => fs.set e.1 e.2) attributes) style
        children :: r)) := by
  induction es generalizing attributes with
  | nil => rfl
  | cons e rest ih =>
    obtain ⟨name, value⟩ := e
    rw [List.map_cons, List.forall_mem_cons] at valid
    rw [Surface.setAttributes, bind_of_ok ((setAttribute_of name value).trans (if_pos valid.1))]
    exact ih valid.2

/-- Attributes are set up to the first with an invalid name. -/
theorem setAttributes_fails {es : List (String × String)} {name : String}
    (invalid : firstInvalid? (es.map Prod.fst) = some name) : ∃ attributes',
    surface.setAttributes ⟨l.length⟩ es (of (l ++ .element tag attributes style children :: r)) =
      .error (.invalidName name) (of (l ++ .element tag attributes' style children :: r)) := by
  induction es generalizing attributes with
  | nil => cases invalid
  | cons e rest ih =>
    obtain ⟨name', value⟩ := e
    rw [List.map_cons, firstInvalid?_cons] at invalid
    cases named : Text.isName name' with
    | false =>
      rw [named] at invalid
      cases invalid
      refine ⟨attributes, bind_of_error ((setAttribute_of _ value).trans (if_neg ?_))⟩
      rw [named]
      exact Bool.false_ne_true
    | true =>
      rw [named] at invalid
      rw [Surface.setAttributes, bind_of_ok ((setAttribute_of name' value).trans (if_pos named))]
      exact ih invalid

theorem setStyleProperties_of (es : List (String × String)) :
    surface.setStyleProperties ⟨l.length⟩ es
        (of (l ++ .element tag attributes style children :: r)) =
      .ok () (of (l ++ .element tag attributes (es.foldl (fun s e => s.setProperty e.1 e.2) style)
        children :: r)) := by
  induction es generalizing style with
  | nil => rfl
  | cons e rest ih =>
    rw [Surface.setStyleProperties, bind_of_ok (setStyleProperty_of e.1 e.2)]
    exact ih

theorem setRawStyle_of (text : Option String) :
    surface.setRawStyle ⟨l.length⟩ text
        (of (l ++ .element tag attributes Style.empty children :: r)) =
      .ok () (of (l ++ .element tag attributes ⟨text, Fields.empty⟩ children :: r)) := by
  cases text with
  | none => rfl
  | some css => exact setStyleText_of css

theorem createElement_valid (valid : Text.isName tag = true) :
    surface.createElement tag (of l) =
      .ok ⟨l.length⟩ (of (l ++ [.element tag Fields.empty Style.empty []])) :=
  (createElement_of tag).trans (if_pos valid)

theorem errorStyle_made :
    Node.errorStyle.foldl (fun s e => s.setProperty e.1 e.2) Style.empty = errorStyle := by
  rfl

/-- The number of the first slot behind these. -/
theorem length_behind (l r : List Slot) (x : Slot) :
    (l ++ x :: r).length = l.length + 1 + r.length := by
  rw [List.length_append, List.length_cons]
  omega

/-- A child that has been laid out behind what is there is put behind its parent's children. -/
theorem realizeChildren_cons {ids : List NodeId} {n : Node} {rest : List Node} {k : Nat}
    (hk : k = l.length + 1 + r.length)
    (built : surface.realize n (of (l ++ .element tag attributes style ids :: r)) =
      .ok ⟨k⟩ (of (l ++ .element tag attributes style ids :: r ++ n.layout k))) :
    surface.realizeChildren ⟨l.length⟩ (n :: rest)
        (of (l ++ .element tag attributes style ids :: r)) =
      surface.realizeChildren ⟨l.length⟩ rest
        (of (l ++ .element tag attributes style (ids ++ [⟨k⟩]) :: (r ++ n.layout k))) := by
  obtain ⟨x, below, layout⟩ : ∃ x below, n.layout k = x :: below := by
    refine List.exists_cons_of_length_pos ?_
    rw [length_layout]
    exact Node.slots_pos n
  have found := slot_of (l ++ .element tag attributes style ids :: r) x below
  rw [length_behind, ← hk, ← layout, List.append_assoc, List.cons_append] at found
  rw [List.append_assoc, List.cons_append] at built
  have made : surface.realizeChildren ⟨l.length⟩ (n :: rest) _ = _ := bind_of_ok built
  rw [made, bind_of_ok (appendChild_of found)]

mutual

/-- A node with valid names is laid out behind what is there. -/
theorem realize_of {l : List Slot} : ∀ {n : Node}, (∀ name ∈ n.names, Text.isName name = true) →
    surface.realize n (of l) = .ok ⟨l.length⟩ (of (l ++ n.layout l.length))
  | .text content, _ => createTextNode_of content
  | .error message, _ => by
    have made : surface.realize (.error message) (of l) = _ :=
      bind_of_ok (createElement_valid (by decide))
    rw [made, bind_of_ok (setTextContent_of message), Node.layout]
    split
    · rw [bind_of_ok (setStyleProperties_of _), errorStyle_made]
      rfl
    · rw [bind_of_ok (setStyleProperties_of _), errorStyle_made]
      rfl
  | .element tag attributes style children, valid => by
    rw [Node.names, List.cons_append, List.forall_mem_cons, List.forall_mem_append] at valid
    obtain ⟨tagValid, attributesValid, childrenValid⟩ := valid
    have set : attributes.toList.foldl (fun fs e => fs.set e.1 e.2) Fields.empty = attributes :=
      Fields.ofList_toList attributes
    have made : surface.realize (.element tag attributes style children) (of l) = _ :=
      bind_of_ok (createElement_valid tagValid)
    rw [made, bind_of_ok (setAttributes_of attributesValid), set,
      bind_of_ok (setRawStyle_of style.text), bind_of_ok (setStyleProperties_of _),
      bind_of_ok (realizeChildren_of childrenValid)]
    rfl

/-- Children are laid out behind what is there, and stand in the slot of their parent. -/
theorem realizeChildren_of {l r : List Slot} {tag : String} {attributes : Fields String}
    {style : Style} {ids : List NodeId} : ∀ {nodes : List Node},
    (∀ name ∈ namesOf nodes, Text.isName name = true) →
    surface.realizeChildren ⟨l.length⟩ nodes (of (l ++ .element tag attributes style ids :: r)) =
      .ok () (of (l ++ .element tag attributes style
        (ids ++ idsFrom (l.length + 1 + r.length) nodes) ::
          (r ++ layoutOf (l.length + 1 + r.length) nodes)))
  | [], _ => by
    rw [idsFrom, layoutOf, List.append_nil, List.append_nil]
    rfl
  | n :: rest, valid => by
    rw [namesOf, List.forall_mem_append] at valid
    have built := realize_of (l := l ++ .element tag attributes style ids :: r) valid.1
    rw [length_behind] at built
    rw [realizeChildren_cons rfl built, realizeChildren_of valid.2, idsFrom, layoutOf,
      List.length_append, length_layout, List.append_assoc, List.append_assoc,
      ← Nat.add_assoc (l.length + 1)]
    rfl

end

mutual

/-- A node with an invalid name is refused, with something left behind what was there. -/
theorem realize_fails {l : List Slot} {name : String} : ∀ {n : Node},
    firstInvalid? n.names = some name →
    ∃ more, surface.realize n (of l) = .error (.invalidName name) (of (l ++ more))
  | .text _, invalid | .error _, invalid => nomatch invalid
  | .element tag attributes style children, invalid => by
    rw [Node.names, firstInvalid?_element] at invalid
    cases tagValid : Text.isName tag with
    | false =>
      rw [tagValid] at invalid
      cases invalid
      refine ⟨[], ?_⟩
      rw [List.append_nil]
      refine bind_of_error ((createElement_of _).trans (if_neg ?_))
      rw [tagValid]
      exact Bool.false_ne_true
    | true =>
      rw [tagValid, if_pos rfl] at invalid
      have made : surface.realize (.element tag attributes style children) (of l) = _ :=
        bind_of_ok (createElement_valid tagValid)
      rw [made]
      cases attributesValid : firstInvalid? attributes.names with
      | some first =>
        rw [attributesValid] at invalid
        cases invalid
        obtain ⟨set, refused⟩ := setAttributes_fails (l := l) (r := []) attributesValid
        exact ⟨_, bind_of_error refused⟩
      | none =>
        rw [attributesValid, Option.none_or] at invalid
        rw [firstInvalid?_eq_none_iff] at attributesValid
        rw [bind_of_ok (setAttributes_of attributesValid), bind_of_ok (setRawStyle_of style.text),
          bind_of_ok (setStyleProperties_of _)]
        obtain ⟨more, refused⟩ := realizeChildren_fails invalid
        exact ⟨more, bind_of_error refused⟩

theorem realizeChildren_fails {l r : List Slot} {name tag : String} {attributes : Fields String}
    {style : Style} {ids : List NodeId} : ∀ {nodes : List Node},
    firstInvalid? (namesOf nodes) = some name →
    ∃ more, surface.realizeChildren ⟨l.length⟩ nodes
      (of (l ++ .element tag attributes style ids :: r)) =
        .error (.invalidName name) (of (l ++ more))
  | [], invalid => nomatch invalid
  | n :: rest, invalid => by
    rw [namesOf, firstInvalid?_append] at invalid
    cases nodeValid : firstInvalid? n.names with
    | some first =>
      rw [nodeValid] at invalid
      cases invalid
      obtain ⟨more, refused⟩ := realize_fails nodeValid
      refine ⟨.element tag attributes style ids :: r ++ more, ?_⟩
      rw [List.append_assoc] at refused
      exact bind_of_error refused
    | none =>
      rw [nodeValid, Option.none_or] at invalid
      have built := realize_of (l := l ++ .element tag attributes style ids :: r)
        (firstInvalid?_eq_none_iff.mp nodeValid)
      rw [length_behind] at built
      rw [realizeChildren_cons rfl built]
      exact realizeChildren_fails invalid

end

/-! ## The theorem -/

/-- The slots that are in the first memory are the same in the second. -/
def Keeps (m m' : Memory) : Prop := ∀ id, id.index < m.size → m'.slot id = m.slot id

theorem keeps_of (l more : List Slot) : Keeps (of l) (of (l ++ more)) := by
  intro id within
  have inFront : id.index < l.length := within
  simp [Memory.slot, of, List.getElem?_append_left inFront]

/-- **Nodes come back from a memory.** -/
theorem snapshot_realize (m : Memory) (n : Node) :
    ((∀ name ∈ n.names, Text.isName name = true) →
      (∀ name ∈ n.propertyNames, Css.propertyName name = name) →
      ∃ id m', surface.realize n m = .ok id m' ∧ m'.snapshot id = .ok n.shown ∧ Keeps m m' ∧
        Visits m' id (idRange m.size (m'.size - m.size))) ∧
    (∀ name, firstInvalid? n.names = some name →
      ∃ m', surface.realize n m = .error (.invalidName name) m' ∧ Keeps m m') := by
  obtain ⟨l, rfl⟩ : ∃ l, m = of l := ⟨m.slots.toList, rfl⟩
  refine ⟨fun valid named => ?_, fun name invalid => ?_⟩
  · have held : (of (l ++ n.layout l.length)).Holds l.length (n.layout l.length) :=
      ⟨l, [], by rw [List.append_nil]; rfl, rfl⟩
    have size : (of (l ++ n.layout l.length)).size = l.length + n.slots :=
      List.length_append.trans (congrArg _ (length_layout _ n))
    refine ⟨⟨l.length⟩, _, realize_of valid, ?_, keeps_of l _, ?_⟩
    · refine snapshotWithin_layout held named ?_
      rw [size]
      omega
    · have count : (of (l ++ n.layout l.length)).size - (of l).size = n.slots := by
        rw [size]
        exact Nat.add_sub_cancel_left ..
      rw [count]
      exact visits_layout held
  · obtain ⟨more, refused⟩ := realize_fails (l := l) invalid
    exact ⟨_, refused, keeps_of l more⟩

/-- An element with a colour and an error node in it. -/
def colouredWithError : Node :=
  .element "p" Fields.empty ⟨none, .ofList [("color", "red")]⟩ [.text "before", .error "lost"]

/-- An element in which an attribute cannot be written. -/
def misnamed : Node :=
  .element "p" Fields.empty Style.empty
    [.element "a" (.ofList [("href", "#"), ("not valid", "x")]) Style.empty []]

theorem snapshot_colouredWithError :
    ((∀ name ∈ colouredWithError.names, Text.isName name = true) ∧
      (∀ name ∈ colouredWithError.propertyNames, Css.propertyName name = name) ∧
      ∃ id m', surface.realize colouredWithError empty = .ok id m' ∧
        m'.snapshot id = .ok (.element "p" Fields.empty ⟨none, .ofList [("color", "red")]⟩
          [.text "before", .element "div" Fields.empty errorStyle [.text "lost"]])) ∧
    (firstInvalid? misnamed.names = some "not valid" ∧
      ∃ m', surface.realize misnamed empty = .error (.invalidName "not valid") m') := by
  have valid : ∀ name ∈ colouredWithError.names, Text.isName name = true := by decide
  have named : ∀ name ∈ colouredWithError.propertyNames, Css.propertyName name = name := by decide
  have invalid : firstInvalid? misnamed.names = some "not valid" := by decide
  refine ⟨⟨valid, named, ?_⟩, invalid, ?_⟩
  · obtain ⟨id, m', made, shown, -⟩ := (snapshot_realize empty colouredWithError).1 valid named
    exact ⟨id, m', made, shown⟩
  · obtain ⟨m', refused, -⟩ := (snapshot_realize empty misnamed).2 "not valid" invalid
    exact ⟨m', refused⟩

end Memory

end JsonMarkup
