import JsonMarkup.Proofs.Surface.Mounting

/-!
# Mounting on a handle of another memory

A handle is an index, and nothing tells which memory has given it out. A memory takes a handle of
another one for a node that does not exist if its index is past the last slot. Mounting looks the
target up last, when the rendered nodes have already got slots, so a handle that is past the last
slot when the mounting begins can name one of them when it is used.

**Theorem (`mount_on_foreign_handle`).** A handle past the last slot is refused as unknown exactly
if it is still past the last slot behind the rendered nodes. If it falls on one of them, an element
gets the nodes for children, among them the one that it is part of, and a text is refused as a text.
The slots that were there keep what they hold in every case.
-/

namespace JsonMarkup

open Render

namespace Memory

/-- Children that are there replace those of the target; what the target holds decides the rest. -/
theorem replaceChildren_cases {m : Memory} {ids : List NodeId} (target : NodeId)
    (there : ∀ id ∈ ids, id.index < m.size) :
    surface.replaceChildren target ids m =
      match m.slot target with
      | .error e => .error e m
      | .ok (.text _) => .error (.notAnElement target) m
      | .ok (.element tag attributes style _) =>
        .ok () ⟨m.slots.setIfInBounds target.index (.element tag attributes style ids)⟩ := by
  simp only [surface, update, call, replaceChildren, checkAll_of there, modify]
  cases m.slot target with
  | error e => rfl
  | ok x => cases x <;> rfl

/-- A handle past the first slots names one of those behind them. -/
theorem slots_behind {l more : List Slot} {id : NodeId} (h : l.length ≤ id.index) :
    (of (l ++ more)).slots[id.index]? = more[id.index - l.length]? := by
  simp only [of, List.getElem?_toArray, List.getElem?_append_right h]

/-- A slot behind those of a memory can be replaced. -/
theorem keeps_replaced {m grown : Memory} {k : Nat} (kept : Keeps m grown) (behind : m.size ≤ k)
    (x : Slot) : Keeps m ⟨grown.slots.setIfInBounds k x⟩ := by
  intro id within
  have other : k ≠ id.index := by omega
  rw [← kept id within]
  simp only [Memory.slot, Array.getElem?_setIfInBounds_ne other]

/-- **A foreign handle is refused only behind the rendered nodes.** What becomes of it otherwise is
decided by the slot that has come to stand at its index. -/
theorem mount_on_foreign_handle {policy : Policy} {source : Source} {target : NodeId}
    {nodes : List Node} {run : EStateM Error Memory (Option (Mount NodeId))} (m : Memory)
    (mounting : surface.Mounting policy source target nodes run) (foreign : m.size ≤ target.index) :
    ∃ m', Keeps m m' ∧ m'.size = m.size + slotsOf nodes ∧
      (match (layoutOf m.size nodes)[target.index - m.size]? with
        | none => run m = .error (.unknownNode target) m'
        | some (.text _) => run m = .error (.notAnElement target) m'
        | some (.element _ _ _ _) =>
          run m = .ok none m' ∧ m'.children target = .ok (idsFrom m.size nodes)) ∧
      (run m = .error (.unknownNode target) m' ↔ m.size + slotsOf nodes ≤ target.index) := by
  obtain ⟨l, rfl⟩ : ∃ l, m = of l := ⟨m.slots.toList, rfl⟩
  have valid : ∀ name ∈ namesOf nodes, Text.isName name = true :=
    isName_of_allWellNamed (allWellNamed_of_rendered mounting.rendered)
  rw [show (of l).size = l.length from rfl] at foreign ⊢
  let grown := of (l ++ layoutOf l.length nodes)
  have kept : Keeps (of l) grown := keeps_of l _
  have size : grown.size = l.length + slotsOf nodes :=
    List.length_append.trans (congrArg _ (length_layoutOf _ nodes))
  have there : ∀ id ∈ idsFrom l.length nodes, id.index < grown.size := by
    intro id hid
    rw [size]
    exact ((idsFrom_increasing l.length nodes).1 id hid).2
  have replaced := replaceChildren_cases target there
  rw [mounting.eq_mountNodes, Surface.mountNodes, bind_of_ok (realizeAll_of valid), replaced]
  have past : l.length + slotsOf nodes ≤ target.index ↔
      (layoutOf l.length nodes)[target.index - l.length]? = none := by
    rw [List.getElem?_eq_none_iff, length_layoutOf]
    omega
  rw [past, ← slots_behind foreign]
  cases found : grown.slots[target.index]? with
  | none =>
    have missing : grown.slot target = .error (.unknownNode target) := by
      rw [slot, found]
    rw [missing]
    exact ⟨grown, kept, size, rfl, iff_of_true rfl rfl⟩
  | some x =>
    rw [slot_eq_ok_iff.mpr found]
    cases x with
    | text content => exact ⟨grown, kept, size, rfl, by simp⟩
    | element tag attributes style children =>
      have within : target.index < grown.slots.size := (Array.getElem?_eq_some_iff.mp found).1
      have shown : (grown.slots.setIfInBounds target.index (.element tag attributes style
          (idsFrom l.length nodes)))[target.index]? = some (.element tag attributes style
            (idsFrom l.length nodes)) := Array.getElem?_setIfInBounds_self_of_lt within
      refine ⟨_, keeps_replaced kept foreign _, ?_, ⟨rfl, ?_⟩, by simp⟩
      · rw [← size, Memory.size, Array.size_setIfInBounds, Memory.size]
      · simp only [Memory.children, slot, shown]

/-- A document of one paragraph. -/
def greeting : Source := .mapping [("p", .text "hi")]

theorem renderNodes_greeting : renderNodes .standard greeting =
    [.element "p" Fields.empty Style.empty [.text "hi"]] := by
  have noGates : NoGates (greeting.mentions ·) := fun _ => rfl
  rw [renderNodes_eq_fragment noGates]
  rfl

/-- The paragraph and its text take two slots of an empty memory, so the third handle of another
memory is refused as unknown, and the second as that of a text. -/
theorem greeting_refused :
    (render .standard greeting).blockedOn? = none ∧ empty.size ≤ 1 ∧
      (∃ m', surface.mount .standard ⟨2⟩ greeting empty = .error (.unknownNode ⟨2⟩) m') ∧
      ∃ m', surface.mount .standard ⟨1⟩ greeting empty = .error (.notAnElement ⟨1⟩) m' := by
  have settles : (render .standard greeting).blockedOn? = none := by decide +kernel
  have mounting (target : NodeId) : surface.Mounting .standard greeting target _ _ :=
    .atOnce settles
  refine ⟨settles, Nat.zero_le 1, ?_, ?_⟩
  · obtain ⟨m', -, -, -, unknown⟩ := mount_on_foreign_handle empty (mounting ⟨2⟩)
      (Nat.zero_le 2)
    rw [renderNodes_greeting] at unknown
    exact ⟨m', unknown.mpr (by decide)⟩
  · obtain ⟨m', -, -, refused, -⟩ := mount_on_foreign_handle empty (mounting ⟨1⟩)
      (Nat.zero_le 1)
    rw [renderNodes_greeting] at refused
    exact ⟨m', refused⟩

/-- The first handle of another memory is not refused: the paragraph that is being mounted gets it,
and becomes its own child. -/
theorem greeting_mounted :
    empty.slot ⟨0⟩ = .error (.unknownNode ⟨0⟩) ∧
      ∃ m', surface.mount .standard ⟨0⟩ greeting empty = .ok none m' ∧
        m'.children ⟨0⟩ = .ok [⟨0⟩] := by
  have settles : (render .standard greeting).blockedOn? = none := by decide +kernel
  have mounting : surface.Mounting .standard greeting ⟨0⟩ _ _ := .atOnce settles
  rw [mounting.eq_mountNodes, renderNodes_greeting]
  exact ⟨rfl, _, rfl, rfl⟩

end Memory

end JsonMarkup
