import JsonMarkup.Proofs.Surface.Operations

/-!
# Operations in place

An operation on a memory looks nodes up, allocates nodes and writes to a slot, one after the other.
`inPlace` is the surface on which each of these steps is taken on the memory itself, so that what a
step has done stays done if a later one fails. It is the surface of the memory
(`surface_eq_inPlace`): whatever can be refused is refused before anything is written.

**Theorem (`history_atomic`).** Whatever has been done to a memory, handles among children name
slots, and slots stay what they are. An operation that fails leaves the memory as it was, and one
that succeeds writes to no slot that was there but the one that it names.
-/

namespace JsonMarkup

namespace Memory

/-! ## Steps -/

def checkName (name : String) : EStateM Error Memory Unit :=
  if Text.isName name then pure () else throw (.invalidName name)

def lookUp (id : NodeId) : EStateM Error Memory Slot := fun m =>
  match m.slot id with
  | .ok x => .ok x m
  | .error e => .error e m

def lookUpAll : List NodeId → EStateM Error Memory Unit
  | [] => pure ()
  | id :: rest => do
    let _ ← lookUp id
    lookUpAll rest

/-- Look an element up, for its parts. -/
def lookUpElement (id : NodeId) :
    EStateM Error Memory (String × Fields String × Style × List NodeId) := do
  match ← lookUp id with
  | .text _ => throw (.notAnElement id)
  | .element tag attributes style children => return (tag, attributes, style, children)

/-- Put a new node behind all others. -/
def put (x : Slot) : EStateM Error Memory NodeId := fun m => .ok (m.allocate x).1 (m.allocate x).2

def write (id : NodeId) (x : Slot) : EStateM Error Memory Unit := fun m =>
  .ok () ⟨m.slots.setIfInBounds id.index x⟩

/-- Look an element up, and write to it. -/
def change (id : NodeId)
    (f : Fields String → Style → List NodeId → Fields String × Style × List NodeId) :
    EStateM Error Memory Unit := do
  let (tag, attributes, style, children) ← lookUpElement id
  let (attributes, style, children) := f attributes style children
  write id (.element tag attributes style children)

/-- Put the content that a text makes, which is a new node unless the text is empty. -/
def putContent (text : String) : EStateM Error Memory (List NodeId) :=
  if text = "" then pure [] else (fun id => [id]) <$> put (.text text)

/-- The surface on which operations are sequences of steps. -/
def inPlace : Surface Memory NodeId NodeId Error where
  createElement tag := do
    checkName tag
    put (.element tag Fields.empty Style.empty [])
  createTextNode text := put (.text text)
  setTextContent id text := do
    let _ ← lookUpElement id
    let content ← putContent text
    change id fun a s _ => (a, s, content)
  setAttribute id name value := do
    checkName name
    change id fun a s c => (a.set name value, s, c)
  setStyleText id css := change id fun a s c => (a, s.setText css, c)
  setStyleProperty id name value := change id fun a s c => (a, s.setProperty name value, c)
  appendChild parent child := do
    let _ ← lookUp child
    change parent fun a s c => (a, s, c ++ [child])
  replaceChildren target children := do
    lookUpAll children
    change target fun a s _ => (a, s, children)
  intoNode id m := (id, m)

/-! ## Steps that cannot fail half way -/

variable {m m' : Memory} {id : NodeId} {x : Slot}

theorem lookUp_of_ok (h : m.slot id = .ok x) : lookUp id m = .ok x m := by
  rw [lookUp, h]

theorem lookUp_of_error {e : Error} (h : m.slot id = .error e) : lookUp id m = .error e m := by
  rw [lookUp, h]

theorem lookUpElement_of_error {e : Error} (h : m.slot id = .error e) :
    lookUpElement id m = .error e m := bind_of_error (lookUp_of_error h)

theorem lookUpElement_text {content : String} (h : m.slot id = .ok (.text content)) :
    lookUpElement id m = .error (.notAnElement id) m := bind_of_ok (lookUp_of_ok h)

theorem lookUpElement_element {tag : String} {attributes : Fields String} {style : Style}
    {children : List NodeId} (h : m.slot id = .ok (.element tag attributes style children)) :
    lookUpElement id m = .ok (tag, attributes, style, children) m := bind_of_ok (lookUp_of_ok h)

/-- Looking an element up and writing to it is a change of it. -/
theorem change_eq (id : NodeId)
    (f : Fields String → Style → List NodeId → Fields String × Style × List NodeId) :
    change id f = update (·.modify id f) := by
  funext m
  rw [change, update, call, modify]
  cases found : m.slot id with
  | error e => exact bind_of_error (lookUpElement_of_error found)
  | ok x =>
    cases x with
    | text content => exact bind_of_error (lookUpElement_text found)
    | element tag attributes style children => exact bind_of_ok (lookUpElement_element found)

theorem lookUpAll_eq (ids : List NodeId) (m : Memory) :
    lookUpAll ids m = match m.checkAll ids with
      | .ok () => .ok () m
      | .error e => .error e m := by
  induction ids with
  | nil => rfl
  | cons id rest ih =>
    rw [lookUpAll, checkAll]
    cases found : m.slot id with
    | error e => exact bind_of_error (lookUp_of_error found)
    | ok x =>
      rw [bind_of_ok (lookUp_of_ok found)]
      exact ih

/-- A new node behind all others leaves those before it as they are. -/
theorem slot_allocate (x : Slot) (h : id.index < m.size) :
    (m.allocate x).2.slot id = m.slot id := by
  have old : (m.slots.push x)[id.index]? = m.slots[id.index]? := by
    rw [Array.getElem?_push, if_neg (show id.index ≠ m.slots.size from Nat.ne_of_lt h)]
  simp only [allocate, slot, old]

/-- The element is still one after a node for its content has been allocated. -/
theorem setTextContent_inPlace (id : NodeId) (text : String) :
    inPlace.setTextContent id text = surface.setTextContent id text := by
  funext m
  simp only [inPlace, surface, update, call, setTextContent, Memory.children]
  cases found : m.slot id with
  | error e => exact bind_of_error (lookUpElement_of_error found)
  | ok x =>
    cases x with
    | text content => exact bind_of_error (lookUpElement_text found)
    | element tag attributes style children =>
      rw [bind_of_ok (lookUpElement_element found)]
      dsimp only
      by_cases empty : text = ""
      · have content : putContent text m = .ok [] m := by
          rw [putContent, if_pos empty]
          rfl
        rw [if_pos empty, bind_of_ok content]
        exact congrFun (change_eq id _) m
      · have there : id.index < m.size := exists_slot_iff.mp ⟨_, found⟩
        have still := (slot_allocate (.text text) there).trans found
        have content : putContent text m =
            .ok [(m.allocate (.text text)).1] (m.allocate (.text text)).2 := by
          rw [putContent, if_neg empty]
          rfl
        rw [if_neg empty, bind_of_ok content, change_eq, update, call, createTextNode, modify,
          still]
        rfl

/-- **What is done in place is what is done.** -/
theorem surface_eq_inPlace : surface = inPlace := by
  rw [surface, inPlace]
  congr 1
  case e_createElement =>
    funext tag m
    rw [checkName, call, createElement]
    cases Text.isName tag <;> rfl
  case e_setTextContent =>
    funext id text
    exact (setTextContent_inPlace id text).symm
  case e_setAttribute =>
    funext id name value m
    rw [checkName, change_eq, update, call, setAttribute]
    cases Text.isName name <;> rfl
  case e_setStyleText =>
    funext id css
    exact (change_eq id _).symm
  case e_setStyleProperty =>
    funext id name value
    exact (change_eq id _).symm
  case e_appendChild =>
    funext parent child m
    rw [update, call, appendChild]
    cases found : m.slot child with
    | error e => exact (bind_of_error (lookUp_of_error found)).symm
    | ok x =>
      rw [bind_of_ok (lookUp_of_ok found), change_eq]
      rfl
  case e_replaceChildren =>
    funext target children m
    have looked := lookUpAll_eq children m
    rw [update, call, replaceChildren]
    cases found : m.checkAll children with
    | error e =>
      rw [found] at looked
      exact (bind_of_error looked).symm
    | ok u =>
      rw [found] at looked
      rw [bind_of_ok looked, change_eq]
      rfl

end Memory

/-! ## Slots that stay -/

/-- What may become of a slot: a text stays as it is, and an element keeps its tag. -/
inductive Slot.Becomes : Slot → Slot → Prop
  | text {content : String} : Becomes (.text content) (.text content)
  | element {tag : String} {attributes attributes' : Fields String} {style style' : Style}
    {children children' : List NodeId} :
    Becomes (.element tag attributes style children) (.element tag attributes' style' children')

theorem Slot.Becomes.refl (x : Slot) : x.Becomes x := by
  cases x with
  | text content => exact .text
  | element tag attributes style children => exact .element

theorem Slot.Becomes.trans {x y z : Slot} (h : x.Becomes y) (h' : y.Becomes z) : x.Becomes z := by
  cases h with
  | text => exact h'
  | element =>
    cases h'
    exact .element

namespace Memory

/-- The slot that an operation writes to, if it writes to one that was there before. -/
def Operation.writesTo? : Operation → Option NodeId
  | .createRoot _ | .createElement _ | .createTextNode _ | .children _ => none
  | .setTextContent id _ | .setAttribute id _ _ | .setStyleText id _ | .setStyleProperty id _ _
  | .appendChild id _ | .replaceChildren id _ => some id

variable {m m' : Memory} {id : NodeId} {x : Slot} {named? : Option NodeId}

/-- Slots stay what they are, and no slot that was there is written to but this one. -/
structure Writes (named? : Option NodeId) (m m' : Memory) : Prop where
  becomes : ∀ id x, m.slot id = .ok x → ∃ y, m'.slot id = .ok y ∧ x.Becomes y
  others : ∀ id, id.index < m.size → named? ≠ some id → m'.slot id = m.slot id

theorem Writes.refl (named? : Option NodeId) (m : Memory) : Writes named? m m where
  becomes _ x found := ⟨x, found, .refl x⟩
  others _ _ _ := rfl

theorem Writes.trans {m'' : Memory} (h : Writes named? m m') (h' : Writes named? m' m'') :
    Writes named? m m'' where
  becomes id x found := by
    obtain ⟨y, there, first⟩ := h.becomes id x found
    obtain ⟨z, still, second⟩ := h'.becomes id y there
    exact ⟨z, still, first.trans second⟩
  others id within other := by
    obtain ⟨x, found⟩ := exists_slot_iff.mpr within
    obtain ⟨y, there, -⟩ := h.becomes id x found
    rw [h'.others id (exists_slot_iff.mp ⟨y, there⟩) other, h.others id within other]

theorem writes_allocate (named? : Option NodeId) (m : Memory) (x : Slot) :
    Writes named? m (m.allocate x).2 where
  becomes _ y found :=
    ⟨y, (slot_allocate x (exists_slot_iff.mp ⟨y, found⟩)).trans found, .refl y⟩
  others _ within _ := slot_allocate x within

/-- What a change makes of the slots. -/
theorem slots_modify {f : Fields String → Style → List NodeId → Fields String × Style × List NodeId}
    (h : m.modify id f = .ok m') : ∃ tag attributes style children,
      m.slot id = .ok (.element tag attributes style children) ∧
      m'.slot id = .ok (.element tag (f attributes style children).1
        (f attributes style children).2.1 (f attributes style children).2.2) ∧
      ∀ id', id' ≠ id → m'.slot id' = m.slot id' := by
  obtain ⟨tag, attributes, style, children, found, rfl⟩ := modify_eq_ok h
  have within : id.index < m.slots.size := exists_slot_iff.mp ⟨_, found⟩
  refine ⟨tag, attributes, style, children, found, ?_, fun id' other => ?_⟩
  · rw [slot_eq_ok_iff, Array.getElem?_setIfInBounds_self_of_lt within]
  · have index : id.index ≠ id'.index := by
      intro same
      cases id
      cases id'
      exact other (congrArg NodeId.mk same.symm)
    simp only [slot, Array.getElem?_setIfInBounds, if_neg index]

/-- A change writes to the slot of the element alone, and keeps its tag. -/
theorem writes_modify
    {f : Fields String → Style → List NodeId → Fields String × Style × List NodeId}
    (h : m.modify id f = .ok m') : Writes (some id) m m' := by
  obtain ⟨tag, attributes, style, children, before, after, others⟩ := slots_modify h
  refine ⟨fun id' x found => ?_, fun id' _ other => others id' fun same => other (by rw [same])⟩
  by_cases same : id' = id
  · subst same
    cases before.symm.trans found
    exact ⟨_, after, .element⟩
  · exact ⟨x, (others id' same).trans found, .refl x⟩

/-! ## What an operation that succeeds has done -/

theorem createElement_eq_ok {tag : String} {ids : List NodeId}
    (h : (Operation.createElement tag).perform m = .ok ids m') : m' = (m.createRoot tag).2 := by
  simp only [Operation.perform, surface, Functor.map, EStateM.map] at h
  split at h
  · rename_i done
    cases h
    have made := call_eq_ok done
    rw [createElement] at made
    split at made
    · cases made
      rfl
    · cases made
  · cases h

theorem children_eq_ok {element : NodeId} {ids : List NodeId}
    (h : (Operation.children element).perform m = .ok ids m') : m' = m := by
  rw [Operation.perform] at h
  have made := call_eq_ok h
  cases found : m.children element with
  | error e => simp [found, Except.map] at made
  | ok nodes =>
    simp only [found, Except.map, Except.ok.injEq, Prod.mk.injEq] at made
    exact made.2.symm

theorem setAttribute_eq_ok {name value : String} (h : m.setAttribute id name value = .ok m') :
    m.modify id (fun a s c => (a.set name value, s, c)) = .ok m' := by
  rw [setAttribute] at h
  split at h
  · exact h
  · cases h

/-- A new content is allocated before it is put in its place. -/
theorem setTextContent_eq_ok {text : String} (h : m.setTextContent id text = .ok m') :
    (text = "" ∧ m.modify id (fun a s _ => (a, s, [])) = .ok m') ∨
    (text ≠ "" ∧ (m.allocate (.text text)).2.modify id (fun a s _ => (a, s, [⟨m.size⟩])) =
      .ok m') := by
  rw [setTextContent] at h
  split at h
  · cases h
  · split at h
    · rename_i empty
      exact .inl ⟨empty, h⟩
    · rename_i notEmpty
      exact .inr ⟨notEmpty, h⟩

theorem appendChild_eq_ok {child : NodeId} (h : m.appendChild id child = .ok m') :
    m.modify id (fun a s c => (a, s, c ++ [child])) = .ok m' := by
  rw [appendChild] at h
  split at h
  · cases h
  · exact h

theorem replaceChildren_eq_ok {ids : List NodeId} (h : m.replaceChildren id ids = .ok m') :
    m.modify id (fun a s _ => (a, s, ids)) = .ok m' := by
  rw [replaceChildren] at h
  split at h
  · cases h
  · exact h

/-- **An operation that succeeds writes to the slot that it names.** -/
theorem Operation.writes_of_ok {op : Operation} {ids : List NodeId}
    (h : op.perform m = .ok ids m') : Writes op.writesTo? m m' := by
  cases op with
  | createRoot tag =>
    cases h
    exact writes_allocate _ m _
  | createElement tag =>
    rw [createElement_eq_ok h]
    exact writes_allocate _ m _
  | createTextNode text =>
    cases h
    exact writes_allocate _ m _
  | setTextContent element text =>
    rcases setTextContent_eq_ok (map_update_eq_ok h).2 with ⟨-, made⟩ | ⟨-, made⟩
    · exact writes_modify made
    · exact (writes_allocate _ m (.text text)).trans (writes_modify made)
  | setAttribute element name value =>
    exact writes_modify (setAttribute_eq_ok (map_update_eq_ok h).2)
  | setStyleText element css => exact writes_modify (map_update_eq_ok h).2
  | setStyleProperty element name value => exact writes_modify (map_update_eq_ok h).2
  | appendChild parent child => exact writes_modify (appendChild_eq_ok (map_update_eq_ok h).2)
  | replaceChildren target nodes =>
    exact writes_modify (replaceChildren_eq_ok (map_update_eq_ok h).2)
  | children element =>
    rw [children_eq_ok h]
    exact .refl _ _

/-! ## Histories -/

/-- Slots stay what they are whatever else is done. -/
theorem becomes_history (more : List Operation) (h : History) {id : NodeId} {x : Slot}
    (found : h.memory.slot id = .ok x) :
    ∃ y, (more.foldl History.perform h).memory.slot id = .ok y ∧ x.Becomes y := by
  induction more generalizing h x with
  | nil => exact ⟨x, found, .refl x⟩
  | cons op rest ih =>
    rw [List.foldl_cons]
    cases done : op.perform h.memory with
    | ok ids m' =>
      obtain ⟨y, there, first⟩ := (Operation.writes_of_ok done).becomes id x found
      have next : (h.perform op).memory.slot id = .ok y := by
        rw [History.perform, done]
        exact there
      obtain ⟨z, still, second⟩ := ih (h.perform op) next
      exact ⟨z, still, first.trans second⟩
    | error e m' =>
      have next : (h.perform op).memory.slot id = .ok x := by
        rw [History.perform, done, Operation.perform_eq_error done]
        exact found
      exact ih (h.perform op) next

/-- **No dangling handles, and operations are atomic.** For a memory that has come about by any
operations with any handles. In turn: handles among the children of an element name slots; each slot
stays, a text as it is and an element with its tag, whatever is done later; operations are what they
are when each of their steps is taken in place; and an operation that fails leaves the memory as it
was, while one that succeeds leaves every slot as it was but the one that it names. -/
theorem history_atomic (ops more : List Operation) (op : Operation) :
    let m := (history ops).memory
    (∀ id tag attributes style children, m.slot id = .ok (.element tag attributes style children) →
      ∀ child ∈ children, ∃ x, m.slot child = .ok x) ∧
    (∀ id x, m.slot id = .ok x →
      ∃ y, (history (ops ++ more)).memory.slot id = .ok y ∧ x.Becomes y) ∧
    surface = inPlace ∧
    match op.perform m with
    | .error _ m' => m' = m
    | .ok _ m' => m.size ≤ m'.size ∧
      ∀ id, id.index < m.size → op.writesTo? ≠ some id → m'.slot id = m.slot id := by
  intro m
  have sound := history_sound ops
  refine ⟨fun id tag attributes style children found child isChild => ?_, fun id x found => ?_,
    surface_eq_inPlace, ?_⟩
  · exact exists_slot_iff.mpr (sound.closed _ _ _ _ _ found child isChild)
  · rw [history, List.foldl_append]
    exact becomes_history more (history ops) found
  · cases done : op.perform m with
    | error e m' => exact Operation.perform_eq_error done
    | ok ids m' =>
      have grows := (Operation.perform_eq_ok done sound.closed).1
      exact ⟨grows.size, (Operation.writes_of_ok done).others⟩

end Memory

end JsonMarkup
