import JsonMarkup.Proofs.Render.Unambiguous
import JsonMarkup.Proofs.Surface.Operations
import JsonMarkup.Proofs.Surface.Settling
import Mathlib.Data.List.Forall2

/-!
# Mounting in a memory

A memory refuses names that are not valid, and nodes that it does not know. Rendered nodes have
valid names (`allWellNamed_of_rendered`), and mounting hands over nodes that have just been built,
so only the target can be refused, and only for being a text.

**Theorem (`mount_in_memory`).** However the memory has come about, a document that settles is
mounted on every element that the memory has given out. Its new children are the rendered nodes, in
order, in slots that have been added. Nothing else changes, and nothing at all does if the target is
a text.
-/

namespace JsonMarkup

open Render

/-! ## Rendered nodes -/

theorem Surface.Mounting.rendered {σ ν η ε : Type} {S : Surface σ ν η ε} {policy : Policy}
    {source : Source} {target : η} {nodes : List Node} {run : EStateM ε σ (Option (Mount η))}
    (h : S.Mounting policy source target nodes run) : ∀ n ∈ nodes, Rendered policy source n := by
  cases h with
  | atOnce _ => exact fun n hn => .inr hn
  | @inCourse moves _ =>
    obtain ⟨k, gathered⟩ := (course policy source moves).gather_eq_poll
    rw [gathered, ← course_polls]
    exact fun n hn => .inl ⟨_, hn⟩

/-! ## Names -/

mutual

/-- The names of a well-named node are valid. -/
theorem isName_of_wellNamed : ∀ {n : Node}, n.WellNamed → ∀ name ∈ n.names, Text.isName name = true
  | .text _, _ | .error _, _ => nofun
  | .element tag attributes style children, ⟨tagNamed, attributesNamed, childrenNamed⟩ => by
    intro name hname
    rw [Node.names, List.cons_append, List.mem_cons, List.mem_append] at hname
    rcases hname with rfl | inAttributes | below
    · exact tagNamed
    · exact attributesNamed name inAttributes
    · exact isName_of_allWellNamed childrenNamed name below

theorem isName_of_allWellNamed : ∀ {nodes : List Node}, AllWellNamed nodes →
    ∀ name ∈ namesOf nodes, Text.isName name = true
  | [], _ => nofun
  | n :: rest, ⟨hn, hrest⟩ => by
    intro name hname
    rcases List.mem_append.mp hname with here | later
    · exact isName_of_wellNamed hn name here
    · exact isName_of_allWellNamed hrest name later

end

namespace Memory

/-! ## Nodes one after the other -/

/-- Nodes with valid names are laid out one after the other behind what is there. -/
theorem realizeAll_of {l : List Slot} {nodes : List Node}
    (valid : ∀ name ∈ namesOf nodes, Text.isName name = true) :
    surface.realizeAll nodes (of l) =
      .ok (idsFrom l.length nodes) (of (l ++ layoutOf l.length nodes)) := by
  induction nodes generalizing l with
  | nil =>
    rw [layoutOf, List.append_nil]
    rfl
  | cons n rest ih =>
    rw [namesOf, List.forall_mem_append] at valid
    have later := ih (l := l ++ n.layout l.length) valid.2
    rw [List.length_append, length_layout] at later
    rw [Surface.realizeAll, bind_of_ok (realize_of valid.1), bind_of_ok later, idsFrom, layoutOf,
      List.append_assoc]
    rfl

/-- The first slot of each node, and of the next one behind it. -/
theorem idsFrom_increasing (k : Nat) (nodes : List Node) :
    (∀ id ∈ idsFrom k nodes, k ≤ id.index ∧ id.index < k + slotsOf nodes) ∧
      (idsFrom k nodes).Pairwise fun a b => a.index < b.index := by
  induction nodes generalizing k with
  | nil => exact ⟨nofun, .nil⟩
  | cons n rest ih =>
    have pos := Node.slots_pos n
    obtain ⟨within, increasing⟩ := ih (k + n.slots)
    rw [idsFrom, slotsOf]
    refine ⟨?_, List.pairwise_cons.mpr ⟨?_, increasing⟩⟩
    · intro id hid
      rcases List.mem_cons.mp hid with rfl | hid
      · dsimp only
        omega
      · have := within id hid
        omega
    · intro id hid
      have := (within id hid).1
      dsimp only
      omega

/-- The slots of nodes that are laid out one after the other are those of each. -/
theorem holds_layoutOf {m : Memory} {k : Nat} {nodes : List Node}
    (held : m.Holds k (layoutOf k nodes)) :
    List.Forall₂ (fun id n => m.Holds id.index (n.layout id.index)) (idsFrom k nodes) nodes := by
  induction nodes generalizing k with
  | nil => exact .nil
  | cons n rest ih =>
    rw [layoutOf] at held
    have later := held.right
    rw [length_layout] at later
    exact .cons held.left (ih later)

/-! ## The target -/

variable {l r : List Slot}

theorem checkAll_of {m : Memory} {ids : List NodeId} (h : ∀ id ∈ ids, id.index < m.size) :
    m.checkAll ids = .ok () := by
  induction ids with
  | nil => rfl
  | cons id rest ih =>
    obtain ⟨x, found⟩ := exists_slot_iff.mpr (h id List.mem_cons_self)
    rw [checkAll, found]
    exact ih fun id' hid => h id' (List.mem_cons_of_mem _ hid)

/-- Nodes that are there take the place of the children of an element. -/
theorem replaceChildren_of {tag : String} {attributes : Fields String} {style : Style}
    {children ids : List NodeId}
    (there : ∀ id ∈ ids, id.index < (l ++ .element tag attributes style children :: r).length) :
    surface.replaceChildren ⟨l.length⟩ ids (of (l ++ .element tag attributes style children :: r)) =
      .ok () (of (l ++ .element tag attributes style ids :: r)) := by
  have found : (of (l ++ .element tag attributes style children :: r)).checkAll ids = .ok () :=
    checkAll_of there
  simp only [surface, update, call, replaceChildren, found, modify_of]
  rfl

/-- A text has no children that could be replaced. -/
theorem replaceChildren_text {content : String} {ids : List NodeId}
    (there : ∀ id ∈ ids, id.index < (l ++ .text content :: r).length) :
    surface.replaceChildren ⟨l.length⟩ ids (of (l ++ .text content :: r)) =
      .error (.notAnElement ⟨l.length⟩) (of (l ++ .text content :: r)) := by
  have found : (of (l ++ .text content :: r)).checkAll ids = .ok () := checkAll_of there
  simp only [surface, update, call, replaceChildren, found, modify, slot_of]
  rfl

/-- A slot that is not the one after `l` does not depend on it. -/
theorem slot_of_ne (x y : Slot) {id : NodeId} (h : id ≠ ⟨l.length⟩) :
    (of (l ++ x :: r)).slot id = (of (l ++ y :: r)).slot id := by
  have other : id.index ≠ l.length := fun same => h (by rw [← same])
  have same : (l ++ x :: r)[id.index]? = (l ++ y :: r)[id.index]? := by
    rcases Nat.lt_or_gt_of_ne other with before | behind
    · rw [List.getElem?_append_left before, List.getElem?_append_left before]
    · obtain ⟨k, hk⟩ := Nat.exists_eq_add_of_lt behind
      rw [List.getElem?_append_right (Nat.le_of_lt behind),
        List.getElem?_append_right (Nat.le_of_lt behind), hk]
      have index : l.length + k + 1 - l.length = k + 1 := by omega
      rw [index, List.getElem?_cons_succ, List.getElem?_cons_succ]
  simp only [Memory.slot, of, List.getElem?_toArray, same]

/-- A memory around one of its slots. -/
theorem exists_of {m : Memory} {id : NodeId} (h : id.index < m.size) :
    ∃ l x r, m = of (l ++ x :: r) ∧ id = ⟨l.length⟩ := by
  have within : id.index < m.slots.toList.length := h
  refine ⟨m.slots.toList.take id.index, m.slots.toList[id.index],
    m.slots.toList.drop (id.index + 1), ?_, ?_⟩
  · rw [List.getElem_cons_drop, List.take_append_drop]
    rfl
  · rw [List.length_take_of_le (Nat.le_of_lt within)]

/-! ## The theorem -/

/-- **Mounting in a memory fails on texts only.** What becomes of a mounting is decided by what the
target is, for every document that settles and every history of the memory. -/
theorem mount_in_memory {policy : Policy} {source : Source} {target : NodeId} {nodes : List Node}
    {run : EStateM Error Memory (Option (Mount NodeId))} (ops : List Operation)
    (mounting : surface.Mounting policy source target nodes run)
    (given : target ∈ (history ops).given) :
    let m := (history ops).memory
    match m.slot target with
    | .ok (.element tag attributes style _) =>
      ∃ m' ids, run m = .ok none m' ∧ m'.slot target = .ok (.element tag attributes style ids) ∧
        List.Forall₂ (fun id n => m'.Holds id.index (n.layout id.index)) ids nodes ∧
        (∀ id ∈ ids, m.size ≤ id.index ∧ id.index < m'.size) ∧
        (ids.Pairwise fun a b => a.index < b.index) ∧
        ∀ id, id.index < m.size → id ≠ target → m'.slot id = m.slot id
    | .ok (.text _) => ∃ m', run m = .error (.notAnElement target) m' ∧ Keeps m m'
    | .error _ => False := by
  intro m
  have valid : ∀ name ∈ namesOf nodes, Text.isName name = true :=
    isName_of_allWellNamed (allWellNamed_of_rendered mounting.rendered)
  obtain ⟨l, x, r, split, rfl⟩ := exists_of ((history_sound ops).given target given)
  rw [show m = of (l ++ x :: r) from split, mounting.eq_mountNodes, slot_of]
  let k := (l ++ x :: r).length
  have built : surface.mountNodes ⟨l.length⟩ nodes (of (l ++ x :: r)) =
      surface.replaceChildren ⟨l.length⟩ (idsFrom k nodes)
        (of (l ++ x :: (r ++ layoutOf k nodes))) := by
    rw [Surface.mountNodes, bind_of_ok (realizeAll_of valid), List.append_assoc, List.cons_append]
  obtain ⟨within, increasing⟩ := idsFrom_increasing k nodes
  have length : ∀ y : Slot, (l ++ y :: (r ++ layoutOf k nodes)).length = k + slotsOf nodes := by
    intro y
    simp only [k, List.length_append, List.length_cons, length_layoutOf]
    omega
  have there : ∀ y : Slot, ∀ id ∈ idsFrom k nodes,
      id.index < (l ++ y :: (r ++ layoutOf k nodes)).length := by
    intro y id hid
    rw [length]
    exact (within id hid).2
  rw [built]
  cases x with
  | element tag attributes style children =>
    rw [replaceChildren_of (there _)]
    refine ⟨_, idsFrom k nodes, rfl, slot_of l _ _, ?_, ?_, increasing, ?_⟩
    · refine holds_layoutOf ⟨l ++ .element tag attributes style (idsFrom k nodes) :: r, [], ?_, ?_⟩
      · simp [of]
      · simp [k]
    · intro id hid
      refine ⟨(within id hid).1, ?_⟩
      exact there _ id hid
    · intro id old other
      rw [slot_of_ne _ (.element tag attributes style children) other]
      have kept := keeps_of (l ++ .element tag attributes style children :: r) (layoutOf k nodes)
      rw [List.append_assoc, List.cons_append] at kept
      exact kept id old
  | text content =>
    rw [replaceChildren_text (there _)]
    refine ⟨_, rfl, ?_⟩
    have kept := keeps_of (l ++ .text content :: r) (layoutOf k nodes)
    rwa [List.append_assoc, List.cons_append] at kept

/-- An element with a text in it. -/
def furnished : List Operation :=
  [.createRoot "main", .createTextNode "old", .appendChild ⟨0⟩ ⟨1⟩]

/-- A paragraph whose text is not there at once, and a tag that cannot be written. -/
def lateParagraph : Source :=
  .mapping [("p", .pending (.deferred none 1 (.text "new"))), ("not a tag", .text "")]

/-- Both entries become children of the element; its text takes neither. -/
theorem mount_lateParagraph :
    (render .standard lateParagraph).blockedOn? = none ∧
      ⟨0⟩ ∈ (history furnished).given ∧ ⟨1⟩ ∈ (history furnished).given ∧
      (∃ m' first second,
        surface.mount .standard ⟨0⟩ lateParagraph (history furnished).memory = .ok none m' ∧
        m'.slot ⟨0⟩ = .ok (.element "main" Fields.empty Style.empty [first, second]) ∧
        m'.slot ⟨1⟩ = .ok (.text "old")) ∧
      ∃ m', surface.mount .standard ⟨1⟩ lateParagraph (history furnished).memory =
        .error (.notAnElement ⟨1⟩) m' := by
  have settles : (render .standard lateParagraph).blockedOn? = none := by decide +kernel
  have count : (renderNodes .standard lateParagraph).length = 2 := by decide +kernel
  have root : ⟨0⟩ ∈ (history furnished).given := by decide
  have text : ⟨1⟩ ∈ (history furnished).given := by decide
  refine ⟨settles, root, text, ?_, ?_⟩
  · obtain ⟨m', ids, mounted, shown, laidOut, -, -, kept⟩ :=
      mount_in_memory furnished (.atOnce settles) root
    have two : ids.length = 2 := laidOut.length_eq.trans count
    obtain ⟨first, second, rfl⟩ := List.length_eq_two.mp two
    exact ⟨m', first, second, mounted, shown, kept ⟨1⟩ (by decide) (by decide)⟩
  · obtain ⟨m', refused, -⟩ := mount_in_memory furnished (.atOnce settles) text
    exact ⟨m', refused⟩

end Memory

end JsonMarkup
