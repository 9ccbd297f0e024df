import Mathlib.Data.List.Forall2
import Mathlib.Data.List.Nodup
import Mathlib.Data.List.Perm.Subperm
import Mathlib.Logic.Relation
import JsonMarkup.Proofs.Surface.Atomic

/-!
# When the nodes in a memory are a forest

The nodes in a memory are a forest if no node stands twice in the lists of children, and no node is
below itself. A memory does not see to it: a node may be put below a second parent, or below itself.
What sees to it is the order of the calls. An operation is `Orderly` if it puts nodes in place that
stand nowhere else, and below nothing that is below them.

**Theorem (`forest_iff_orderly`).** The nodes are a forest at every moment of a history if and only
if every operation that succeeded was orderly at its moment. A snapshot comes to an end if and only
if it meets no node that is below itself, and in a forest it copies each slot once.

The lists of children are looked at as a function from nodes to lists, `childrenOf`. An operation
changes the function in one place (`Operation.childrenOf_of_ok`), so all there is to know is when a
forest stays one if the children of one node are changed (`forest_update_iff`).
-/

namespace JsonMarkup

open Relation

/-! ## Lists of children -/

/-- A node stands among the children of another. -/
def Below (f : NodeId → List NodeId) (parent child : NodeId) : Prop := child ∈ f parent

/-- These lists of children are those of a forest. -/
structure Forest (f : NodeId → List NodeId) : Prop where
  nodup : ∀ p, (f p).Nodup
  /-- No node has two parents. -/
  alone : ∀ {p q c : NodeId}, c ∈ f p → c ∈ f q → p = q
  acyclic : ∀ p, ¬TransGen (Below f) p p

section

variable {f : NodeId → List NodeId} {p x y : NodeId} {cs : List NodeId}

/-- The way down to a node does not lead over its children. -/
theorem reaches_update (h : ReflTransGen (Below f) x p) :
    ReflTransGen (Below (Function.update f p cs)) x p := by
  induction h using ReflTransGen.head_induction_on with
  | refl => exact .refl
  | @head a b step _ ih =>
    by_cases same : a = p
    · rw [same]
    · refine .head ?_ ih
      rw [Below, Function.update_of_ne same]
      exact step

/-- A way down that is new leads over the node whose children are new, and over one of these. -/
theorem below_update (h : TransGen (Below (Function.update f p cs)) x y) :
    TransGen (Below f) x y ∨
      ReflTransGen (Below f) x p ∧ ∃ c ∈ cs, ReflTransGen (Below f) c y := by
  have edge : ∀ {a b}, Below (Function.update f p cs) a b → Below f a b ∨ a = p ∧ b ∈ cs := by
    intro a b step
    by_cases same : a = p
    · rw [Below, same, Function.update_self] at step
      exact .inr ⟨same, step⟩
    · rw [Below, Function.update_of_ne same] at step
      exact .inl step
  induction h with
  | single step =>
    rcases edge step with old | ⟨rfl, new⟩
    · exact .inl (.single old)
    · exact .inr ⟨.refl, _, new, .refl⟩
  | tail _ step ih =>
    rcases edge step with old | ⟨rfl, new⟩
    · rcases ih with way | ⟨up, c, isNew, down⟩
      · exact .inl (way.tail old)
      · exact .inr ⟨up, c, isNew, down.tail old⟩
    · refine .inr ⟨?_, _, new, .refl⟩
      rcases ih with way | ⟨up, -⟩
      · exact way.to_reflTransGen
      · exact up

/-- **When a forest stays one.** The new children of a node may stand below no other node, and the
node may not be below them. -/
theorem forest_update_iff (h : Forest f) : Forest (Function.update f p cs) ↔
    cs.Nodup ∧ ∀ c ∈ cs, (∀ q, c ∈ f q → q = p) ∧ ¬ReflTransGen (Below f) c p := by
  have here : Function.update f p cs p = cs := Function.update_self ..
  have there : ∀ {q}, q ≠ p → Function.update f p cs q = f q :=
    fun other => Function.update_of_ne other ..
  constructor
  · intro forest
    refine ⟨here ▸ forest.nodup p, fun c new => ⟨fun q old => ?_, fun way => ?_⟩⟩
    · by_contra other
      exact other (forest.alone (by rw [there other]; exact old) (by rw [here]; exact new))
    · exact forest.acyclic p (.head' (by rw [Below, here]; exact new) (reaches_update way))
  · rintro ⟨nodup, fresh⟩
    refine ⟨fun q => ?_, fun {a b c} inA inB => ?_, fun q cycle => ?_⟩
    · by_cases same : q = p
      · rw [same, here]
        exact nodup
      · rw [there same]
        exact h.nodup q
    · by_cases isA : a = p <;> by_cases isB : b = p
      · rw [isA, isB]
      · rw [isA, here] at inA
        rw [there isB] at inB
        exact isA.trans ((fresh c inA).1 b inB).symm
      · rw [there isA] at inA
        rw [isB, here] at inB
        exact ((fresh c inB).1 a inA).trans isB.symm
      · rw [there isA] at inA
        rw [there isB] at inB
        exact h.alone inA inB
    · rcases below_update cycle with old | ⟨up, c, new, down⟩
      · exact h.acyclic q old
      · exact (fresh c new).2 (down.trans up)

/-- Nothing is below two children of a node. -/
theorem Forest.siblings_apart (h : Forest f) {c d a : NodeId} (hc : c ∈ f p) (hd : d ∈ f p)
    (toC : ReflTransGen (Below f) c a) (toD : ReflTransGen (Below f) d a) : c = d := by
  have ordered : ∀ {c d}, c ∈ f p → d ∈ f p → ReflTransGen (Below f) c d → c = d := by
    intro c d hc hd way
    rcases way.cases_tail with same | ⟨q, up, step⟩
    · exact same.symm
    · rw [h.alone step hd] at up
      exact absurd (.head' hc up) (h.acyclic p)
  have unique : Relator.RightUnique (Function.swap (Below f)) := fun _ _ _ => h.alone
  rcases ReflTransGen.total_of_right_unique unique (reflTransGen_swap.mpr toC)
    (reflTransGen_swap.mpr toD) with way | way
  · exact (ordered hd hc (reflTransGen_swap.mp way)).symm
  · exact ordered hc hd (reflTransGen_swap.mp way)

end

/-- The children in a slot; a text has none. -/
def Slot.childList : Slot → List NodeId
  | .text _ => []
  | .element _ _ _ children => children

namespace Memory

/-- The children of a node; there are none below what is no element. -/
def childrenOf (m : Memory) (id : NodeId) : List NodeId :=
  match m.slot id with
  | .ok x => x.childList
  | .error _ => []

/-- All the lists of children together. -/
def allChildren (m : Memory) : List NodeId := m.slots.toList.flatMap Slot.childList

/-- The nodes in a memory are a forest. -/
structure IsForest (m : Memory) : Prop where
  /-- No node stands twice in all the lists of children together. -/
  once : m.allChildren.Nodup
  /-- No node is a descendant of itself. -/
  acyclic : ∀ id, ¬TransGen (Below m.childrenOf) id id

variable {m m' : Memory} {id : NodeId} {x : Slot}

theorem childrenOf_of_ok (h : m.slot id = .ok x) : m.childrenOf id = x.childList := by
  rw [childrenOf, h]

theorem childrenOf_element {tag : String} {attributes : Fields String} {style : Style}
    {children : List NodeId} (h : m.slot id = .ok (.element tag attributes style children)) :
    m.childrenOf id = children := childrenOf_of_ok h

theorem childrenOf_getElem {k : Nat} (h : k < m.slots.toList.length) :
    m.childrenOf ⟨k⟩ = (m.slots.toList[k]).childList :=
  childrenOf_of_ok (slot_eq_ok_iff.mpr (Array.getElem?_eq_getElem h))

/-- What has children is there. -/
theorem index_lt_of_child {c : NodeId} (h : c ∈ m.childrenOf id) : id.index < m.size := by
  rw [childrenOf] at h
  split at h
  · rename_i x found
    exact exists_slot_iff.mp ⟨x, found⟩
  · cases h

theorem nodup_allChildren_iff : m.allChildren.Nodup ↔ (∀ p, (m.childrenOf p).Nodup) ∧
    ∀ p q c, c ∈ m.childrenOf p → c ∈ m.childrenOf q → p = q := by
  rw [allChildren, List.nodup_flatMap, List.pairwise_iff_getElem]
  constructor
  · rintro ⟨nodup, apart⟩
    refine ⟨fun p => ?_, fun p q c inP inQ => ?_⟩
    · rw [childrenOf]
      split
      · rename_i x found
        exact nodup x (Array.mem_toList_iff.mpr (Array.mem_of_getElem? (slot_eq_ok_iff.mp found)))
      · exact List.nodup_nil
    · obtain ⟨i⟩ := p
      obtain ⟨j⟩ := q
      have hi : i < m.slots.toList.length := index_lt_of_child inP
      have hj : j < m.slots.toList.length := index_lt_of_child inQ
      rw [childrenOf_getElem hi] at inP
      rw [childrenOf_getElem hj] at inQ
      rcases Nat.lt_trichotomy i j with less | same | more
      · exact absurd inQ (apart i j hi hj less inP)
      · rw [same]
      · exact absurd inP (apart j i hj hi more inQ)
  · rintro ⟨nodup, alone⟩
    refine ⟨fun x there => ?_, fun i j hi hj less c inI inJ => ?_⟩
    · obtain ⟨k, hk, rfl⟩ := List.getElem_of_mem there
      exact childrenOf_getElem hk ▸ nodup ⟨k⟩
    · rw [← childrenOf_getElem hi] at inI
      rw [← childrenOf_getElem hj] at inJ
      exact Nat.ne_of_lt less (congrArg NodeId.index (alone _ _ c inI inJ))

theorem isForest_iff : m.IsForest ↔ Forest m.childrenOf := by
  constructor
  · rintro ⟨once, acyclic⟩
    obtain ⟨nodup, alone⟩ := nodup_allChildren_iff.mp once
    exact ⟨nodup, alone _ _ _, acyclic⟩
  · rintro ⟨nodup, alone, acyclic⟩
    exact ⟨nodup_allChildren_iff.mpr ⟨nodup, fun _ _ _ => alone⟩, acyclic⟩

/-! ## Children after an operation -/

/-- A new node without children changes no list of children. -/
theorem childrenOf_allocate (childless : x.childList = []) :
    (m.allocate x).2.childrenOf = m.childrenOf := by
  funext id
  by_cases within : id.index < m.size
  · rw [childrenOf, slot_allocate x within, childrenOf]
  · have old : m.childrenOf id = [] := by
      rw [List.eq_nil_iff_forall_not_mem]
      exact fun c child => within (index_lt_of_child child)
    rw [old, childrenOf]
    split
    · rename_i y found
      simp only [slot_eq_ok_iff, allocate, Array.getElem?_push] at found
      split at found
      · cases found
        exact childless
      · exact absurd (exists_slot_iff.mp ⟨y, slot_eq_ok_iff.mpr found⟩) within
    · rfl

theorem childrenOf_modify {g : List NodeId → List NodeId}
    {f : Fields String → Style → List NodeId → Fields String × Style × List NodeId}
    (h : m.modify id f = .ok m') (children : ∀ a s c, (f a s c).2.2 = g c) :
    m'.childrenOf = Function.update m.childrenOf id (g (m.childrenOf id)) := by
  obtain ⟨tag, attributes, style, ids, before, after, others⟩ := slots_modify h
  funext id'
  by_cases same : id' = id
  · rw [same, Function.update_self, childrenOf_of_ok after, childrenOf_of_ok before]
    exact children attributes style ids
  · rw [Function.update_of_ne same, childrenOf, others id' same, childrenOf]

/-- The lists of children that an operation leads to if it succeeds. -/
def Operation.childrenAfter (m : Memory) : Operation → NodeId → List NodeId
  | .setTextContent element text =>
    Function.update m.childrenOf element (if text = "" then [] else [⟨m.size⟩])
  | .appendChild parent child =>
    Function.update m.childrenOf parent (m.childrenOf parent ++ [child])
  | .replaceChildren target nodes => Function.update m.childrenOf target nodes
  | .createRoot _ | .createElement _ | .createTextNode _ | .setAttribute _ _ _ | .setStyleText _ _
  | .setStyleProperty _ _ _ | .children _ => m.childrenOf

/-- A change of an element that keeps its children. -/
theorem childrenOf_of_kept
    {f : Fields String → Style → List NodeId → Fields String × Style × List NodeId}
    (h : m.modify id f = .ok m') (kept : ∀ a s c, (f a s c).2.2 = c) :
    m'.childrenOf = m.childrenOf :=
  (childrenOf_modify h kept).trans (Function.update_eq_self id _)

/-- **An operation changes the children of one node at most.** -/
theorem Operation.childrenOf_of_ok {op : Operation} {ids : List NodeId}
    (h : op.perform m = .ok ids m') : m'.childrenOf = op.childrenAfter m := by
  cases op with
  | createRoot tag =>
    cases h
    exact childrenOf_allocate rfl
  | createElement tag =>
    rw [createElement_eq_ok h]
    exact childrenOf_allocate rfl
  | createTextNode text =>
    cases h
    exact childrenOf_allocate rfl
  | setTextContent element text =>
    rw [childrenAfter]
    rcases setTextContent_eq_ok (map_update_eq_ok h).2 with ⟨empty, made⟩ | ⟨notEmpty, made⟩
    · rw [if_pos empty]
      exact childrenOf_modify made fun _ _ _ => rfl
    · have old : (m.allocate (.text text)).2.childrenOf = m.childrenOf := childrenOf_allocate rfl
      rw [if_neg notEmpty, ← old]
      exact childrenOf_modify made fun _ _ _ => rfl
  | setAttribute element name value =>
    exact childrenOf_of_kept (setAttribute_eq_ok (map_update_eq_ok h).2) fun _ _ _ => rfl
  | setStyleText element css => exact childrenOf_of_kept (map_update_eq_ok h).2 fun _ _ _ => rfl
  | setStyleProperty element name value =>
    exact childrenOf_of_kept (map_update_eq_ok h).2 fun _ _ _ => rfl
  | appendChild parent child =>
    exact childrenOf_modify (appendChild_eq_ok (map_update_eq_ok h).2) fun _ _ _ => rfl
  | replaceChildren target nodes =>
    exact childrenOf_modify (replaceChildren_eq_ok (map_update_eq_ok h).2) fun _ _ _ => rfl
  | children element =>
    rw [children_eq_ok h]
    rfl

/-! ## Orderly operations -/

/-- An operation that puts nodes only where they may stand: nodes that have no other parent, below
one that is not below them. -/
def Operation.Orderly (m : Memory) : Operation → Prop
  | .appendChild parent child =>
    (∀ p, child ∉ m.childrenOf p) ∧ ¬ReflTransGen (Below m.childrenOf) child parent
  | .replaceChildren target nodes => nodes.Nodup ∧ ∀ c ∈ nodes,
    (∀ p, c ∈ m.childrenOf p → p = target) ∧ ¬ReflTransGen (Below m.childrenOf) c target
  | .createRoot _ | .createElement _ | .createTextNode _ | .setTextContent _ _
  | .setAttribute _ _ _ | .setStyleText _ _ | .setStyleProperty _ _ _ | .children _ => True

theorem index_lt_of_isChild (closed : m.Closed) {c : NodeId} (h : c ∈ m.childrenOf id) :
    c.index < m.size := by
  rw [childrenOf] at h
  split at h
  · rename_i x found
    cases x with
    | text content => cases h
    | element tag attributes style children => exact closed _ _ _ _ _ found c h
  · cases h

theorem index_lt_of_setTextContent {text : String} (h : m.setTextContent id text = .ok m') :
    id.index < m.size := by
  cases found : m.slot id with
  | error e =>
    rw [setTextContent, Memory.children, found] at h
    cases h
  | ok x => exact exists_slot_iff.mp ⟨x, found⟩

/-- A node that is not there yet may be put anywhere. -/
theorem new_apart (closed : m.Closed) (there : id.index < m.size) :
    (∀ p, (⟨m.size⟩ : NodeId) ∉ m.childrenOf p) ∧
      ¬ReflTransGen (Below m.childrenOf) ⟨m.size⟩ id := by
  refine ⟨fun p child => Nat.lt_irrefl _ (index_lt_of_isChild closed child), fun way => ?_⟩
  rcases way.cases_head with same | ⟨c, child, -⟩
  · rw [← same] at there
    exact Nat.lt_irrefl _ there
  · exact Nat.lt_irrefl _ (index_lt_of_child child)

/-- A node may be put behind the children of another if it may be put below it. -/
theorem forest_append_iff {f : NodeId → List NodeId} (h : Forest f) (p c : NodeId) :
    Forest (Function.update f p (f p ++ [c])) ↔
      (∀ q, c ∉ f q) ∧ ¬ReflTransGen (Below f) c p := by
  rw [forest_update_iff h, List.nodup_append]
  constructor
  · rintro ⟨⟨-, -, apart⟩, fresh⟩
    obtain ⟨only, above⟩ := fresh c (List.mem_append_right _ List.mem_cons_self)
    refine ⟨fun q child => ?_, above⟩
    rw [only q child] at child
    exact apart c child c List.mem_cons_self rfl
  · rintro ⟨nowhere, above⟩
    refine ⟨⟨h.nodup p, List.nodup_singleton c, fun a old b new => ?_⟩, fun d isChild => ?_⟩
    · rw [List.mem_singleton.mp new]
      rintro rfl
      exact nowhere p old
    · rcases List.mem_append.mp isChild with old | new
      · exact ⟨fun q other => h.alone other old, fun way => h.acyclic p (.head' old way)⟩
      · rw [List.mem_singleton.mp new]
        exact ⟨fun q child => absurd child (nowhere q), above⟩

/-- **A forest stays one just when the operation is orderly.** -/
theorem Operation.isForest_iff_orderly {op : Operation} {ids : List NodeId}
    (h : op.perform m = .ok ids m') (closed : m.Closed) (forest : m.IsForest) :
    m'.IsForest ↔ op.Orderly m := by
  rw [isForest_iff] at forest
  rw [isForest_iff, childrenOf_of_ok h]
  cases op with
  | setTextContent element text =>
    have there := index_lt_of_setTextContent (map_update_eq_ok h).2
    obtain ⟨nowhere, above⟩ := new_apart closed there
    rw [childrenAfter, forest_update_iff forest]
    refine iff_of_true ?_ trivial
    split
    · exact ⟨List.nodup_nil, nofun⟩
    · refine ⟨List.nodup_singleton _, fun c new => ?_⟩
      rw [List.mem_singleton.mp new]
      exact ⟨fun q child => absurd child (nowhere q), above⟩
  | appendChild parent child => exact forest_append_iff forest parent child
  | replaceChildren target nodes => exact forest_update_iff forest
  | _ => exact iff_of_true forest trivial

/-! ## Snapshots that come to an end -/

/-- The results of a list of computations that all succeed. -/
theorem mapM_eq_ok_iff {α β ε : Type} {f : α → Except ε β} {xs : List α} {ys : List β} :
    xs.mapM f = .ok ys ↔ List.Forall₂ (fun x y => f x = .ok y) xs ys := by
  induction xs generalizing ys with
  | nil =>
    rw [List.mapM_nil, List.forall₂_nil_left_iff]
    exact ⟨fun h => (Except.ok.inj h).symm, fun h => h ▸ rfl⟩
  | cons x rest ih =>
    rw [List.mapM_cons, List.forall₂_cons_left_iff]
    constructor
    · intro h
      cases hx : f x with
      | error e =>
        rw [hx] at h
        cases h
      | ok y =>
        cases hrest : rest.mapM f with
        | error e =>
          rw [hx, hrest] at h
          cases h
        | ok more =>
          rw [hx, hrest] at h
          cases h
          exact ⟨y, more, rfl, ih.mp hrest, rfl⟩
    · rintro ⟨y, more, hx, hrest, rfl⟩
      rw [hx, ih.mpr hrest]
      rfl

/-- What a snapshot of an element is made of. -/
theorem snapshotWithin_eq_ok {levels : Nat} {n : Node} (h : m.snapshotWithin levels id = .ok n) :
    ∃ fewer, levels = fewer + 1 ∧
      ((∃ content, m.slot id = .ok (.text content) ∧ n = .text content) ∨
      ∃ tag attributes style children nodes,
        m.slot id = .ok (.element tag attributes style children) ∧
        List.Forall₂ (fun c n => m.snapshotWithin fewer c = .ok n) children nodes ∧
        n = .element tag attributes style nodes) := by
  cases levels with
  | zero => cases h
  | succ fewer =>
    refine ⟨fewer, rfl, ?_⟩
    rw [snapshotWithin] at h
    split at h
    · cases h
    · rename_i content found
      cases h
      exact .inl ⟨content, found, rfl⟩
    · rename_i tag attributes style children found
      split at h
      · cases h
      · rename_i nodes below
        cases h
        exact .inr ⟨tag, attributes, style, children, nodes, found, mapM_eq_ok_iff.mp below, rfl⟩

/-- Going down, the levels get fewer. -/
theorem snapshotWithin_below {levels : Nat} {n : Node} {a : NodeId}
    (h : m.snapshotWithin levels id = .ok n) (way : TransGen (Below m.childrenOf) id a) :
    ∃ fewer n', fewer < levels ∧ m.snapshotWithin fewer a = .ok n' := by
  have step : ∀ {levels id n c}, m.snapshotWithin levels id = .ok n → c ∈ m.childrenOf id →
      ∃ fewer n', fewer < levels ∧ m.snapshotWithin fewer c = .ok n' := by
    intro levels id n c taken child
    obtain ⟨fewer, rfl, shown⟩ := snapshotWithin_eq_ok taken
    rcases shown with ⟨content, found, -⟩ |
      ⟨tag, attributes, style, children, nodes, found, below, -⟩
    · rw [childrenOf_of_ok found] at child
      cases child
    · rw [childrenOf_element found] at child
      obtain ⟨k, within, rfl⟩ := List.getElem_of_mem child
      exact ⟨fewer, _, Nat.lt_succ_self fewer, below.get within (below.length_eq ▸ within)⟩
  induction way with
  | single child => exact step h child
  | tail _ child ih =>
    obtain ⟨some, n', less, taken⟩ := ih
    obtain ⟨fewer, n'', less', taken'⟩ := step taken child
    exact ⟨fewer, n'', Nat.lt_trans less' less, taken'⟩

/-- A node that is below itself has no snapshot, however many levels there are. -/
theorem acyclic_of_snapshotWithin {levels : Nat} {n : Node}
    (h : m.snapshotWithin levels id = .ok n) : ¬TransGen (Below m.childrenOf) id id := by
  intro cycle
  induction levels using Nat.strong_induction_on generalizing n with
  | h levels ih =>
    obtain ⟨fewer, n', less, taken⟩ := snapshotWithin_below h cycle
    exact ih fewer less taken

theorem exists_mapM_eq_ok {α β ε : Type} {f : α → Except ε β} {xs : List α}
    (h : ∀ x ∈ xs, ∃ y, f x = .ok y) : ∃ ys, xs.mapM f = .ok ys := by
  simp only [mapM_eq_ok_iff]
  induction xs with
  | nil => exact ⟨[], .nil⟩
  | cons x rest ih =>
    rw [List.forall_mem_cons] at h
    obtain ⟨⟨y, hx⟩, hrest⟩ := h
    obtain ⟨ys, hys⟩ := ih hrest
    exact ⟨y :: ys, .cons hx hys⟩

/-- There are no more different nodes than slots. -/
theorem length_le_size {path : List NodeId} (nodup : path.Nodup)
    (there : ∀ a ∈ path, a.index < m.size) : path.length ≤ m.size := by
  have sub : path ⊆ idRange 0 m.size := by
    intro a isOn
    have inRange : a.index ∈ List.range' 0 m.size := by simpa using there a isOn
    exact List.mem_map_of_mem inRange
  have short := (nodup.subperm sub).length_le
  rwa [idRange, List.length_map, List.length_range'] at short

/-- A snapshot that meets no node below itself needs no more levels than there are nodes that are
not on the way down to it. -/
theorem snapshotWithin_of_acyclic (closed : m.Closed) : ∀ {levels : Nat} {path : List NodeId}
    {id : NodeId}, path.Nodup → (∀ a ∈ path, TransGen (Below m.childrenOf) a id) →
    (∀ a, ReflTransGen (Below m.childrenOf) id a → ¬TransGen (Below m.childrenOf) a a) →
    id.index < m.size → m.size < levels + path.length →
    ∃ n, m.snapshotWithin levels id = .ok n
  | levels, path, id, nodup, above, acyclic, there, deep => by
    have notOn : id ∉ path := fun isOn => acyclic id .refl (above id isOn)
    have longer : (id :: path).Nodup := List.nodup_cons.mpr ⟨notOn, nodup⟩
    have pathThere : ∀ a ∈ id :: path, a.index < m.size := by
      intro a isOn
      rcases List.mem_cons.mp isOn with rfl | isOn
      · exact there
      · obtain ⟨c, child, -⟩ := TransGen.head'_iff.mp (above a isOn)
        exact index_lt_of_child child
    have short := length_le_size longer pathThere
    rw [List.length_cons] at short
    cases levels with
    | zero => omega
    | succ levels =>
      obtain ⟨x, found⟩ := exists_slot_iff.mpr there
      cases x with
      | text content => exact ⟨_, snapshotWithin_text found (Nat.succ_pos levels)⟩
      | element tag attributes style children =>
        have below : ∀ c ∈ children, ∃ n, m.snapshotWithin levels c = .ok n := by
          intro c isChild
          have step : Below m.childrenOf id c := by
            rw [Below, childrenOf_element found]
            exact isChild
          refine snapshotWithin_of_acyclic closed longer (fun a isOn => ?_)
            (fun a way => acyclic a (.head step way)) (closed _ _ _ _ _ found c isChild) ?_
          · rcases List.mem_cons.mp isOn with rfl | isOn
            · exact .single step
            · exact (above a isOn).tail step
          · rw [List.length_cons]
            omega
        obtain ⟨nodes, made⟩ := exists_mapM_eq_ok below
        exact ⟨_, snapshotWithin_element found made⟩

/-- **When a snapshot comes to an end.** -/
theorem snapshot_ok_iff (closed : m.Closed) (there : id.index < m.size) :
    (∃ n, m.snapshot id = .ok n) ↔
      ∀ a, ReflTransGen (Below m.childrenOf) id a → ¬TransGen (Below m.childrenOf) a a := by
  constructor
  · rintro ⟨n, taken⟩ a way
    rcases reflTransGen_iff_eq_or_transGen.mp way with rfl | way
    · exact acyclic_of_snapshotWithin taken
    · obtain ⟨fewer, n', -, taken'⟩ := snapshotWithin_below taken way
      exact acyclic_of_snapshotWithin taken'
  · intro acyclic
    exact snapshotWithin_of_acyclic closed List.nodup_nil nofun acyclic there (Nat.lt_succ_self _)

/-! ## What a snapshot copies -/

/-- A snapshot copies a slot whenever it meets it. -/
theorem visits_of_snapshotWithin {levels : Nat} {n : Node}
    (h : m.snapshotWithin levels id = .ok n) : ∃ met, Visits m id met ∧ met.length = n.slots := by
  induction levels generalizing id n with
  | zero => cases h
  | succ levels ih =>
    obtain ⟨fewer, same, shown⟩ := snapshotWithin_eq_ok h
    cases same
    rcases shown with ⟨content, found, rfl⟩ |
      ⟨tag, attributes, style, children, nodes, found, below, rfl⟩
    · exact ⟨[id], .text found, rfl⟩
    · have all : ∃ met, VisitsAll m children met ∧ met.length = slotsOf nodes := by
        clear found h
        induction below with
        | nil => exact ⟨[], .nil, rfl⟩
        | cons taken _ rest =>
          obtain ⟨met, first, count⟩ := ih taken
          obtain ⟨later, others, count'⟩ := rest
          refine ⟨met ++ later, .cons first others, ?_⟩
          rw [List.length_append, count, count', slotsOf]
      obtain ⟨met, visits, count⟩ := all
      exact ⟨id :: met, .element found visits, congrArg (· + 1) count⟩

mutual

/-- What is met is the node or below it. -/
theorem Visits.reaches {id : NodeId} {met : List NodeId} (h : Visits m id met) :
    ∀ a ∈ met, ReflTransGen (Below m.childrenOf) id a :=
  match h with
  | .text _ => fun a isMet => by
    rw [List.mem_singleton.mp isMet]
  | .element found all => fun a isMet => by
    rcases List.mem_cons.mp isMet with rfl | isMet
    · exact .refl
    · obtain ⟨c, isChild, way⟩ := all.reaches a isMet
      refine .head ?_ way
      rw [Below, childrenOf_element found]
      exact isChild

theorem VisitsAll.reaches {ids met : List NodeId} (h : VisitsAll m ids met) :
    ∀ a ∈ met, ∃ c ∈ ids, ReflTransGen (Below m.childrenOf) c a :=
  match h with
  | .nil => nofun
  | .cons first later => fun a isMet => by
    rcases List.mem_append.mp isMet with isMet | isMet
    · exact ⟨_, List.mem_cons_self, first.reaches a isMet⟩
    · obtain ⟨c, isOne, way⟩ := later.reaches a isMet
      exact ⟨c, List.mem_cons_of_mem _ isOne, way⟩

end

mutual

/-- In a forest no slot is met twice. -/
theorem Visits.nodup (forest : Forest m.childrenOf) {id : NodeId} {met : List NodeId}
    (h : Visits m id met) : met.Nodup :=
  match h with
  | .text _ => List.nodup_singleton _
  | @Visits.element _ id _ _ _ children _ found all => by
    have siblings : ∀ c ∈ children, c ∈ m.childrenOf id := fun c isChild => by
      rw [childrenOf_element found]
      exact isChild
    have different : children.Nodup := childrenOf_element found ▸ forest.nodup id
    refine List.nodup_cons.mpr ⟨fun isMet => ?_, all.nodup forest siblings different⟩
    obtain ⟨c, isChild, way⟩ := all.reaches id isMet
    exact forest.acyclic id (.head' (siblings c isChild) way)

theorem VisitsAll.nodup (forest : Forest m.childrenOf) {p : NodeId} {ids met : List NodeId}
    (siblings : ∀ c ∈ ids, c ∈ m.childrenOf p) (different : ids.Nodup)
    (h : VisitsAll m ids met) : met.Nodup :=
  match h with
  | .nil => List.nodup_nil
  | .cons first later => by
    rw [List.forall_mem_cons] at siblings
    rw [List.nodup_cons] at different
    refine List.nodup_append.mpr ⟨first.nodup forest,
      later.nodup forest siblings.2 different.2, fun a isMet b isLater same => ?_⟩
    obtain ⟨c, isOne, way⟩ := later.reaches b isLater
    rw [← same] at way
    have sibling :=
      forest.siblings_apart siblings.1 (siblings.2 c isOne) (first.reaches a isMet) way
    exact different.1 (sibling ▸ isOne)

end

/-! ## Histories -/

theorem isForest_empty : empty.IsForest := by
  refine ⟨List.nodup_nil, fun id cycle => ?_⟩
  obtain ⟨c, child, -⟩ := TransGen.head'_iff.mp cycle
  exact Nat.not_lt_zero _ (index_lt_of_child child)

theorem history_concat (ops : List Operation) (op : Operation) :
    history (ops ++ [op]) = (history ops).perform op := by
  rw [history, List.foldl_append]
  rfl

/-- **Forests by orderly operations.** For a memory that has come about by any operations with any
handles. In turn: the nodes were a forest all the time just when each operation that succeeded was
orderly when it was tried; a snapshot comes to an end just when no node that it meets is below
itself; and while the nodes are a forest every node has a snapshot, for which each slot is met once
and each slot that is met is copied to one node. -/
theorem forest_iff_orderly (ops : List Operation) :
    ((∀ before, before <+: ops → (history before).memory.IsForest) ↔
      ∀ before op ids m, before ++ [op] <+: ops → op.perform (history before).memory = .ok ids m →
        op.Orderly (history before).memory) ∧
    let m := (history ops).memory
    (∀ id, id.index < m.size → ((∃ n, m.snapshot id = .ok n) ↔
      ∀ a, ReflTransGen (Below m.childrenOf) id a → ¬TransGen (Below m.childrenOf) a a)) ∧
    (m.IsForest → ∀ id, id.index < m.size → ∃ n met, m.snapshot id = .ok n ∧
      Visits m id met ∧ met.Nodup ∧ met.length = n.slots) := by
  refine ⟨⟨fun forest before op ids m isNext done => ?_, fun orderly before => ?_⟩,
    fun id there => snapshot_ok_iff (history_sound ops).closed there, fun forest id there => ?_⟩
  · have was := forest before ((List.prefix_append before [op]).trans isNext)
    refine (Operation.isForest_iff_orderly done (history_sound before).closed was).mp ?_
    have becomes := forest _ isNext
    rwa [history_concat, History.perform, done] at becomes
  · -- one operation after the other, from the empty memory on
    induction before using List.reverseRecOn with
    | nil => exact fun _ => isForest_empty
    | append_singleton before op ih =>
      intro isNext
      have was := ih ((List.prefix_append before [op]).trans isNext)
      rw [history_concat, History.perform]
      cases done : op.perform (history before).memory with
      | error e m =>
        rw [Operation.perform_eq_error done]
        exact was
      | ok ids m =>
        exact (Operation.isForest_iff_orderly done (history_sound before).closed was).mpr
          (orderly before op ids m isNext done)
  · obtain ⟨n, taken⟩ := (snapshot_ok_iff (history_sound ops).closed there).mpr
      fun a _ => forest.acyclic a
    obtain ⟨met, visits, count⟩ := visits_of_snapshotWithin taken
    exact ⟨n, met, taken, visits, visits.nodup (isForest_iff.mp forest), count⟩

/-- An item that is put in two lists. -/
def sharedItem : List Operation :=
  [.createRoot "ul", .createRoot "ol", .createElement "li", .appendChild ⟨0⟩ ⟨2⟩,
    .appendChild ⟨1⟩ ⟨2⟩]

/-- A list that is put in itself. -/
def ownItem : List Operation := [.createRoot "ul", .appendChild ⟨0⟩ ⟨0⟩]

/-- **The nodes in a memory need not be a forest**, although all handles are those given out: an
item stands in two lists, and a list is below itself and has no snapshot. -/
theorem isForest_fails :
    (history (sharedItem.take 3)).given = [⟨0⟩, ⟨1⟩, ⟨2⟩] ∧
    (history sharedItem).memory.allChildren = [⟨2⟩, ⟨2⟩] ∧
    ¬(history sharedItem).memory.IsForest ∧
    (history (ownItem.take 1)).given = [⟨0⟩] ∧
    TransGen (Below (history ownItem).memory.childrenOf) ⟨0⟩ ⟨0⟩ ∧
    ¬(history ownItem).memory.IsForest ∧
    ∀ levels n, (history ownItem).memory.snapshotWithin levels ⟨0⟩ ≠ .ok n := by
  have twice : (history sharedItem).memory.allChildren = [⟨2⟩, ⟨2⟩] := by decide
  have cycle : TransGen (Below (history ownItem).memory.childrenOf) ⟨0⟩ ⟨0⟩ := by
    refine .single ?_
    rw [Below]
    decide
  refine ⟨by decide, twice, fun forest => ?_, by decide, cycle, fun forest => ?_,
    fun levels n taken => ?_⟩
  · have once := forest.once
    rw [twice] at once
    exact absurd once (by decide)
  · exact forest.acyclic _ cycle
  · exact acyclic_of_snapshotWithin taken cycle

end Memory

end JsonMarkup
