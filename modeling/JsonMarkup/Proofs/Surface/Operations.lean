import JsonMarkup.Proofs.Surface.Snapshot

/-!
# What has been done to a memory

A *history* is what operations have made of an empty memory, one after the other, together with the
handles that were given out on the way. Handles come from the operations that create nodes, and from
a look at the children of an element.

**Invariant (`History.Sound`).** Whatever operations are tried, with whatever handles: a handle that
has been given out names a slot, and so does every handle that stands among the children of an
element. Slots are only ever added, so this is never lost again.
-/

namespace JsonMarkup.Memory

/-! ## Operations -/

/-- An operation on a memory. -/
inductive Operation where
  | createRoot (tag : String)
  | createElement (tag : String)
  | createTextNode (text : String)
  /-- Replace the content of an element by a text. -/
  | setTextContent (element : NodeId) (text : String)
  | setAttribute (element : NodeId) (name value : String)
  /-- Replace the style of an element by raw text. -/
  | setStyleText (element : NodeId) (css : String)
  /-- Merge a property into the style of an element. -/
  | setStyleProperty (element : NodeId) (name value : String)
  /-- Put a node behind the children of an element. -/
  | appendChild (parent child : NodeId)
  | replaceChildren (target : NodeId) (children : List NodeId)
  /-- Look at the children of an element. -/
  | children (element : NodeId)

/-- Try an operation, and say which handles it gives out. -/
def Operation.perform : Operation → EStateM Error Memory (List NodeId)
  | .createRoot tag => call fun m => .ok ([(m.createRoot tag).1], (m.createRoot tag).2)
  | .createElement tag => (fun id => [id]) <$> surface.createElement tag
  | .createTextNode text => (fun id => [id]) <$> surface.createTextNode text
  | .setTextContent element text => (fun _ => []) <$> surface.setTextContent element text
  | .setAttribute element name value => (fun _ => []) <$> surface.setAttribute element name value
  | .setStyleText element css => (fun _ => []) <$> surface.setStyleText element css
  | .setStyleProperty element name value =>
    (fun _ => []) <$> surface.setStyleProperty element name value
  | .appendChild parent child => (fun _ => []) <$> surface.appendChild parent child
  | .replaceChildren target nodes => (fun _ => []) <$> surface.replaceChildren target nodes
  | .children element => call fun m => (m.children element).map (·, m)

/-- What operations have led to. -/
structure History where
  memory : Memory
  /-- The handles that were given out, in order. -/
  given : List NodeId

/-- Try a further operation; what a failing one has done to the memory stays done. -/
def History.perform (h : History) (op : Operation) : History :=
  match op.perform h.memory with
  | .ok ids m => ⟨m, h.given ++ ids⟩
  | .error _ m => ⟨m, h.given⟩

/-- What operations lead to if there is nothing at first. -/
def history (ops : List Operation) : History := ops.foldl History.perform ⟨empty, []⟩

/-! ## Slots after an operation -/

variable {m m' : Memory} {id : NodeId} {x : Slot}

theorem slot_eq_ok_iff : m.slot id = .ok x ↔ m.slots[id.index]? = some x := by
  rw [slot]
  cases m.slots[id.index]? <;> simp

/-- A handle names a slot if it is not too large. -/
theorem exists_slot_iff : (∃ x, m.slot id = .ok x) ↔ id.index < m.size := by
  simp only [slot_eq_ok_iff]
  constructor
  · rintro ⟨x, found⟩
    exact (Array.getElem?_eq_some_iff.mp found).1
  · intro within
    exact ⟨_, Array.getElem?_eq_getElem within⟩

/-- A change succeeds on elements only, and writes to their slot alone. -/
theorem modify_eq_ok {f : Fields String → Style → List NodeId → Fields String × Style × List NodeId}
    (h : m.modify id f = .ok m') : ∃ tag attributes style children,
      m.slot id = .ok (.element tag attributes style children) ∧
      m' = ⟨m.slots.setIfInBounds id.index (.element tag (f attributes style children).1
        (f attributes style children).2.1 (f attributes style children).2.2)⟩ := by
  rw [modify] at h
  split at h
  · cases h
  · cases h
  · rename_i tag attributes style children found
    cases h
    exact ⟨tag, attributes, style, children, found, rfl⟩

/-! ## No handle leads nowhere -/

/-- The handles among the children of elements name slots. -/
def Closed (m : Memory) : Prop :=
  ∀ id tag attributes style children, m.slot id = .ok (.element tag attributes style children) →
    ∀ child ∈ children, child.index < m.size

/-- What an operation may make of a memory: nothing gets lost, and no handle leads nowhere. -/
structure Grows (m m' : Memory) : Prop where
  size : m.size ≤ m'.size
  closed : m.Closed → m'.Closed

theorem Grows.refl (m : Memory) : Grows m m := ⟨Nat.le_refl _, fun h => h⟩

theorem Grows.trans {m'' : Memory} (h : Grows m m') (h' : Grows m' m'') : Grows m m'' :=
  ⟨Nat.le_trans h.size h'.size, fun closed => h'.closed (h.closed closed)⟩

/-- A new node without children may be allocated. -/
theorem grows_allocate (childless : ∀ tag attributes style children,
    x = .element tag attributes style children → children = []) : Grows m (m.allocate x).2 where
  size := by simp [allocate, size]
  closed := by
    intro closed id tag attributes style children found child isChild
    simp only [slot_eq_ok_iff, allocate, Array.getElem?_push] at found
    split at found
    · rw [childless _ _ _ _ (Option.some.inj found)] at isChild
      cases isChild
    · have slot := slot_eq_ok_iff.mpr found
      have within := closed id tag attributes style children slot child isChild
      simp only [allocate, size, Array.size_push]
      exact Nat.lt_succ_of_lt within

/-- An element may be changed if its new children are there. -/
theorem grows_modify {f : Fields String → Style → List NodeId → Fields String × Style × List NodeId}
    (h : m.modify id f = .ok m') (there : ∀ attributes style children,
      (∀ child ∈ children, child.index < m.size) →
        ∀ child ∈ (f attributes style children).2.2, child.index < m.size) : Grows m m' := by
  obtain ⟨tag, attributes, style, children, before, rfl⟩ := modify_eq_ok h
  have size : (⟨m.slots.setIfInBounds id.index (.element tag (f attributes style children).1
      (f attributes style children).2.1 (f attributes style children).2.2)⟩ : Memory).size =
        m.size := by simp [size]
  refine ⟨size.ge, ?_⟩
  intro closed id' tag' attributes' style' children' found child isChild
  rw [size]
  simp only [slot_eq_ok_iff, Array.getElem?_setIfInBounds] at found
  by_cases same : id.index = id'.index
  · simp only [same, if_true] at found
    split at found
    · obtain ⟨-, -, -, rfl⟩ := Slot.element.inj (Option.some.inj found)
      exact there _ _ _ (closed _ _ _ _ _ before) child isChild
    · cases found
  · rw [if_neg same] at found
    exact closed _ _ _ _ _ (slot_eq_ok_iff.mpr found) child isChild

/-- Nodes that have been looked up are there. -/
theorem checkAll_eq_ok {ids : List NodeId} (h : m.checkAll ids = .ok ()) :
    ∀ id ∈ ids, id.index < m.size := by
  induction ids with
  | nil => nofun
  | cons id rest ih =>
    rw [checkAll] at h
    split at h
    · cases h
    · rename_i x found
      intro id' hid
      rcases List.mem_cons.mp hid with rfl | hid
      · exact exists_slot_iff.mp ⟨x, found⟩
      · exact ih h id' hid

theorem grows_setTextContent {text : String} (h : m.setTextContent id text = .ok m') :
    Grows m m' := by
  rw [setTextContent] at h
  split at h
  · cases h
  · by_cases none : text = ""
    · rw [if_pos none] at h
      exact grows_modify h fun _ _ _ _ => List.forall_mem_nil _
    · rw [if_neg none] at h
      have allocated : Grows m (m.allocate (.text text)).2 := by
        apply grows_allocate
        intro _ _ _ _ same
        cases same
      refine allocated.trans (grows_modify h ?_)
      intro _ _ _ _ child isChild
      rw [List.mem_singleton.mp isChild]
      simp [allocate, size]

theorem grows_appendChild {parent : NodeId} (h : m.appendChild parent id = .ok m') :
    Grows m m' := by
  rw [appendChild] at h
  split at h
  · cases h
  · rename_i x found
    refine grows_modify h ?_
    intro _ _ children there child isChild
    rcases List.mem_append.mp isChild with old | new
    · exact there child old
    · rw [List.mem_singleton.mp new]
      exact exists_slot_iff.mp ⟨x, found⟩

theorem grows_replaceChildren {ids : List NodeId} (h : m.replaceChildren id ids = .ok m') :
    Grows m m' := by
  rw [replaceChildren] at h
  split at h
  · cases h
  · rename_i found
    exact grows_modify h fun _ _ _ _ => checkAll_eq_ok found

/-! ## What an operation does -/

theorem call_eq_ok {α : Type} {f : Memory → Except Error (α × Memory)} {a : α}
    (h : call f m = .ok a m') : f m = .ok (a, m') := by
  rw [call] at h
  split at h
  · rename_i found
    cases h
    exact found
  · cases h

theorem update_eq_ok {f : Memory → Except Error Memory} {u : Unit} (h : update f m = .ok u m') :
    f m = .ok m' := by
  have called := call_eq_ok h
  cases hf : f m with
  | error e => simp [hf, Except.map] at called
  | ok made =>
    simp only [hf, Except.map, Except.ok.injEq, Prod.mk.injEq] at called
    rw [called.2]

/-- A successful operation on an element gives out no handle. -/
theorem map_update_eq_ok {f : Memory → Except Error Memory} {ids : List NodeId}
    (h : ((fun _ => []) <$> update f : EStateM Error Memory (List NodeId)) m = .ok ids m') :
    ids = [] ∧ f m = .ok m' := by
  simp only [Functor.map, EStateM.map] at h
  split at h
  · rename_i done
    cases h
    exact ⟨rfl, update_eq_ok done⟩
  · cases h

/-- The handle of a node that has just been allocated is given out. -/
theorem grows_created (childless : ∀ tag attributes style children,
    x = .element tag attributes style children → children = []) :
    Grows m (m.allocate x).2 ∧ ∀ id ∈ [(m.allocate x).1], id.index < (m.allocate x).2.size := by
  refine ⟨grows_allocate childless, ?_⟩
  intro id hid
  rw [List.mem_singleton.mp hid]
  simp [allocate, size]

/-- **An operation loses nothing.** It gives out handles of slots only. -/
theorem Operation.perform_eq_ok {op : Operation} {ids : List NodeId}
    (h : op.perform m = .ok ids m') (closed : m.Closed) :
    Grows m m' ∧ ∀ id ∈ ids, id.index < m'.size := by
  have changed : ∀ {f : Memory → Except Error Memory},
      ((fun _ => []) <$> update f : EStateM Error Memory (List NodeId)) m = .ok ids m' →
      (f m = .ok m' → Grows m m') → Grows m m' ∧ ∀ id ∈ ids, id.index < m'.size := by
    intro f done grows
    obtain ⟨rfl, made⟩ := map_update_eq_ok done
    exact ⟨grows made, List.forall_mem_nil _⟩
  cases op with
  | createRoot tag =>
    rw [perform] at h
    cases call_eq_ok h
    exact grows_created (by simp)
  | createElement tag =>
    simp only [perform, surface, Functor.map, EStateM.map] at h
    split at h
    · rename_i done
      cases h
      have made := call_eq_ok done
      rw [Memory.createElement] at made
      split at made
      · cases made
        exact grows_created (by simp)
      · cases made
    · cases h
  | createTextNode text =>
    cases h
    apply grows_created
    intro _ _ _ _ same
    cases same
  | setTextContent element text => exact changed h grows_setTextContent
  | setAttribute element name value =>
    refine changed h fun made => ?_
    rw [Memory.setAttribute] at made
    split at made
    · exact grows_modify made fun _ _ _ there => there
    · cases made
  | setStyleText element css =>
    exact changed h fun made => grows_modify made fun _ _ _ there => there
  | setStyleProperty element name value =>
    exact changed h fun made => grows_modify made fun _ _ _ there => there
  | appendChild parent child => exact changed h grows_appendChild
  | replaceChildren target nodes => exact changed h grows_replaceChildren
  | children element =>
    rw [perform] at h
    have made := call_eq_ok h
    cases found : m.children element with
    | error e => simp [found, Except.map] at made
    | ok nodes =>
      simp only [found, Except.map, Except.ok.injEq, Prod.mk.injEq] at made
      obtain ⟨rfl, rfl⟩ := made
      refine ⟨.refl m, ?_⟩
      rw [Memory.children] at found
      split at found
      · cases found
      · cases found
      · rename_i here
        cases found
        exact closed _ _ _ _ _ here

theorem call_eq_error {α : Type} {f : Memory → Except Error (α × Memory)} {e : Error}
    (h : call f m = .error e m') : m' = m := by
  rw [call] at h
  split at h
  · cases h
  · cases h
    rfl

theorem map_call_eq_error {α β : Type} {f : Memory → Except Error (α × Memory)} {g : α → β}
    {e : Error} (h : (g <$> call f : EStateM Error Memory β) m = .error e m') : m' = m := by
  simp only [Functor.map, EStateM.map] at h
  split at h
  · cases h
  · rename_i refused
    cases h
    exact call_eq_error refused

/-- An operation that fails leaves the memory as it was. -/
theorem Operation.perform_eq_error {op : Operation} {e : Error} (h : op.perform m = .error e m') :
    m' = m := by
  cases op with
  | createRoot tag | children element =>
    rw [perform] at h
    exact call_eq_error h
  | createTextNode text => cases h
  | _ =>
    rw [perform] at h
    exact map_call_eq_error h

/-! ## Histories -/

/-- Every handle that can be got hold of names a slot. -/
structure History.Sound (h : History) : Prop where
  closed : h.memory.Closed
  given : ∀ id ∈ h.given, id.index < h.memory.size

theorem History.Sound.perform {h : History} (sound : h.Sound) (op : Operation) :
    (h.perform op).Sound := by
  rw [History.perform]
  split
  · rename_i ids m done
    obtain ⟨grows, new⟩ := Operation.perform_eq_ok done sound.closed
    refine ⟨grows.closed sound.closed, ?_⟩
    intro id hid
    rcases List.mem_append.mp hid with old | hid
    · exact Nat.lt_of_lt_of_le (sound.given id old) grows.size
    · exact new id hid
  · rename_i e m refused
    rw [Operation.perform_eq_error refused]
    exact sound

/-- **Whatever is done to a memory, no handle leads nowhere.** -/
theorem history_sound (ops : List Operation) : (history ops).Sound := by
  have start : History.Sound ⟨empty, []⟩ := by
    refine ⟨?_, nofun⟩
    intro id tag attributes style children found
    simp [slot_eq_ok_iff, empty] at found
  have runs : ∀ (ops : List Operation) (h : History), h.Sound →
      (ops.foldl History.perform h).Sound := by
    intro ops
    induction ops with
    | nil => exact fun _ sound => sound
    | cons op rest ih => exact fun h sound => ih _ (sound.perform op)
  exact runs ops _ start

end JsonMarkup.Memory
