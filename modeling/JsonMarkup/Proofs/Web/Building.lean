import JsonMarkup.Proofs.Web.Layout

/-!
# Building nodes in a page

Building nodes in a page hands out new ones behind those that it has handed out before, and changes
no others. If it succeeds, the new nodes are known before (`Node.onPage`). If the page throws, some
nodes have been handed out, and none of them stands in an old one.

**Actions** (`Page.Does`). What is said about an action is how it ends, with a value or with an
exception, and which nodes the page has then. Setting and anchors stay, and no call changes a node
below a number.

**Theorems.** `does_realize` and `does_realizeAll`, by induction on the nodes. The invariant is that
the nodes of the page are closed: a node that has just been built stands nowhere, so putting it
somewhere takes it away from nowhere. `mountNodes_ends` adds the last call, the only one that
changes an old node.
-/

namespace JsonMarkup

open Web (Setting Held Trait Item ElementKind Page Call)

namespace Web

/-- The nodes that a call changes: what an element is told or what stands in it, or where a node
stands. -/
def Call.changes : Call → List Nat
  | .getElementById _ | .createElement _ | .createTextNode _ => []
  | .setTextContent e _ | .setAttribute e _ _ | .setStyleText e _ | .setStyleProperty e _ _ => [e]
  | .appendChild parent child => [parent, child]
  | .replaceChildren e children => e :: children

theorem modify_length {α : Type} (f : α → α) (l : List α) (x : α) (r : List α) :
    (l ++ x :: r).modify l.length f = l ++ f x :: r := by
  induction l with
  | nil => rfl
  | cons y l ih => rw [List.cons_append, List.length_cons, List.modify_succ_cons, ih]; rfl

namespace Page

/-! ## Actions -/

/-- From one page to another the setting stays, and no call changes a node below a number. -/
structure Leads (base : Nat) (p q : Page) : Prop where
  setting : q.setting = p.setting
  found : q.found = p.found
  calls : ∃ made, q.calls = made ++ p.calls ∧ ∀ call ∈ made, ∀ k ∈ call.changes, base ≤ k

theorem Leads.refl (base : Nat) (p : Page) : Leads base p p :=
  ⟨rfl, rfl, [], rfl, List.forall_mem_nil _⟩

theorem Leads.trans {base : Nat} {p q r : Page} (first : Leads base p q) (second : Leads base q r) :
    Leads base p r := by
  obtain ⟨made, calls, above⟩ := first.calls
  obtain ⟨more, calls', above'⟩ := second.calls
  refine ⟨second.setting.trans first.setting, second.found.trans first.found, more ++ made, ?_, ?_⟩
  · rw [calls', calls, List.append_assoc]
  · exact List.forall_mem_append.mpr ⟨above', above⟩

/-- An action leads from a page to a value and nodes, or to an exception and nodes. -/
def Does {α : Type} (base : Nat) (p : Page) (r : EStateM.Result Error Page α)
    (good : α → List Held → Prop) (bad : List Held → Prop) : Prop :=
  match r with
  | .ok a q => Leads base p q ∧ good a q.nodes.toList
  | .error e q => Leads base p q ∧ (∃ text, e = .exception text) ∧ bad q.nodes.toList

section

variable {α β : Type} {base : Nat} {p : Page} {good good' : α → List Held → Prop}
  {bad bad' : List Held → Prop}

theorem Does.pure (a : α) (h : good a p.nodes.toList) :
    Does base p ((pure a : Action α) p) good bad := ⟨.refl base p, h⟩

theorem Does.weaken {r : EStateM.Result Error Page α} (h : Does base p r good bad)
    (worse : ∀ nodes, bad nodes → bad' nodes) (better : ∀ a nodes, good a nodes → good' a nodes) :
    Does base p r good' bad' := by
  cases r with
  | ok a q => exact ⟨h.1, better _ _ h.2⟩
  | error e q => exact ⟨h.1, h.2.1, worse _ h.2.2⟩

/-- An action and another one after it, which leaves the page in a state that is no better if the
first one has thrown. -/
theorem Does.bind {x : Action α} {f : α → Action β} {good' : β → List Held → Prop}
    (first : Does base p (x p) good bad) (worse : ∀ nodes, bad nodes → bad' nodes)
    (second : ∀ a q, q.setting = p.setting → good a q.nodes.toList →
      Does base q (f a q) good' bad') :
    Does base p ((x >>= f) p) good' bad' := by
  show Does base p (EStateM.bind x f p) good' bad'
  rw [EStateM.bind]
  cases ran : x p with
  | error e q =>
    rw [ran] at first
    exact ⟨first.1, first.2.1, worse _ first.2.2⟩
  | ok a q =>
    rw [ran] at first
    have more := second a q first.1.setting first.2
    dsimp only
    cases last : f a q with
    | ok b q' =>
      rw [last] at more
      exact ⟨first.1.trans more.1, more.2⟩
    | error e q' =>
      rw [last] at more
      exact ⟨first.1.trans more.1, more.2⟩

end

variable {base : Nat} {p : Page}

theorem does_record {call : Call} (above : ∀ k ∈ call.changes, base ≤ k) :
    Does base p (record call p) (fun _ nodes => nodes = p.nodes.toList)
      (fun nodes => nodes = p.nodes.toList) :=
  ⟨⟨rfl, rfl, [call], rfl, List.forall_mem_singleton.mpr above⟩, rfl⟩

theorem does_attempt {call : Call} (above : ∀ k ∈ call.changes, base ≤ k) :
    Does base p (attempt call p) (fun _ nodes => nodes = p.nodes.toList)
      (fun nodes => nodes = p.nodes.toList) := by
  have leads : ∀ trap, Leads base p { p with calls := call :: p.calls, trap } := by
    intro trap
    exact ⟨rfl, rfl, [call], rfl, List.forall_mem_singleton.mpr above⟩
  unfold attempt
  dsimp only
  split
  · exact ⟨leads _, rfl⟩
  · rename_i v trapped
    exact ⟨leads _, ⟨v.content, rfl⟩, rfl⟩
  · exact ⟨leads _, rfl⟩

theorem does_handOut (h : Held) {bad : List Held → Prop} :
    Does base p (handOut h p) (fun k nodes => k = p.nodes.size ∧ nodes = p.nodes.toList ++ [h])
      bad :=
  ⟨⟨rfl, rfl, [], rfl, List.forall_mem_nil _⟩, rfl, Array.toList_push⟩

theorem does_change (k : Nat) (f : Held → Held) {bad : List Held → Prop} :
    Does base p (change k f p) (fun _ nodes => nodes = p.nodes.toList.modify k f) bad :=
  ⟨⟨rfl, rfl, [], rfl, List.forall_mem_nil _⟩, Array.toList_modify⟩

theorem does_takeOut (numbers : List Nat) {bad : List Held → Prop} :
    Does base p (takeOut numbers p)
      (fun _ nodes => nodes = p.nodes.toList.map (·.without numbers)) bad :=
  ⟨⟨rfl, rfl, [], rfl, List.forall_mem_nil _⟩, Array.toList_map⟩

/-! ## Calls on elements -/

/-- A call on a node, recorded or attempted, and what it changes. -/
theorem does_call_change {l r : List Held} {h : Held} {call : Action Unit}
    (called : Does base p (call p) (fun _ nodes => nodes = p.nodes.toList)
      (fun nodes => nodes = p.nodes.toList))
    (f : Held → Held) (nodes : p.nodes.toList = l ++ h :: r) {bad : List Held → Prop}
    (same : bad (l ++ h :: r)) :
    Does base p ((call >>= fun _ => change l.length f) p)
      (fun _ nodes => nodes = l ++ f h :: r) bad := by
  apply called.bind
  · rintro _ rfl
    rwa [nodes]
  · intro _ q _ unchanged
    apply (does_change _ _).weaken fun _ h => h
    intro _ _ changed
    rw [changed, unchanged, nodes, modify_length]

section

variable {l r : List Held} {tag : String} {traits : List Trait} {items : List Item} {e : Element}

/-- Among other nodes stands an element with this tag, and with these items in it. -/
def HasElement (l : List Held) (tag : String) (items : List Item) (r nodes : List Held) : Prop :=
  ∃ traits, nodes = l ++ .element tag traits items :: r

theorem does_setAttribute (number : e.number = l.length) (above : base ≤ l.length)
    (name value : String) (nodes : p.nodes.toList = l ++ .element tag traits items :: r) :
    Does base p (setAttribute e name value p)
      (fun _ nodes => nodes = l ++ .element tag (traits ++ [.attribute name value]) items :: r)
      (HasElement l tag items r) := by
  rw [setAttribute, number]
  refine does_call_change (does_attempt ?_) _ nodes ⟨traits, rfl⟩
  exact List.forall_mem_singleton.mpr above

theorem does_setAttributes (number : e.number = l.length) (above : base ≤ l.length)
    (attributes : List (String × String))
    (nodes : p.nodes.toList = l ++ .element tag traits items :: r) :
    Does base p (surface.setAttributes e attributes p)
      (fun _ nodes => nodes = l ++ .element tag (traits ++ attributeTraits attributes) items :: r)
      (HasElement l tag items r) := by
  induction attributes generalizing p traits with
  | nil =>
    rw [attributeTraits, List.map_nil, List.append_nil]
    exact Does.pure () nodes
  | cons a rest ih =>
    apply (does_setAttribute number above a.1 a.2 nodes).bind fun _ h => h
    intro _ q _ told
    apply (ih told).weaken fun _ h => h
    rintro _ _ rfl
    rw [List.append_assoc]
    rfl

theorem does_setRawStyle (number : e.number = l.length) (above : base ≤ l.length)
    (css : Option String) (nodes : p.nodes.toList = l ++ .element tag traits items :: r) :
    Does base p (surface.setRawStyle e css p)
      (fun _ nodes => nodes = l ++ .element tag (traits ++ rawTraits e.kind css) items :: r)
      (HasElement l tag items r) := by
  cases css with
  | none =>
    rw [rawTraits, Option.toList_none, List.map_nil, List.append_nil]
    exact Does.pure () nodes
  | some css =>
    show Does base p (setStyleText e css p) _ _
    by_cases plain : e.kind = .plain
    · have noStyle : ¬e.hasStyle = true := by simp [Element.hasStyle, plain]
      have traits : rawTraits e.kind (some css) = [.attribute "style" css] := by
        simp [rawTraits, plain]
      rw [setStyleText, if_neg noStyle, traits]
      exact does_setAttribute number above _ _ nodes
    · have style : e.hasStyle = true := by simp [Element.hasStyle, plain]
      have told : rawTraits e.kind (some css) = [.styleText css] := by simp [rawTraits, plain]
      rw [setStyleText, if_pos style, number, told]
      refine does_call_change (does_record ?_) _ nodes ⟨traits, rfl⟩
      exact List.forall_mem_singleton.mpr above

theorem does_setStyleProperty (number : e.number = l.length) (above : base ≤ l.length)
    (name value : String) (nodes : p.nodes.toList = l ++ .element tag traits items :: r) :
    Does base p (setStyleProperty e name value p)
      (fun _ nodes => nodes = l ++ .element tag (traits ++ [.styleProperty name value]) items :: r)
      (HasElement l tag items r) := by
  rw [setStyleProperty]
  by_cases style : e.hasStyle = true
  · rw [if_pos style, number]
    refine does_call_change (does_attempt ?_) _ nodes ⟨traits, rfl⟩
    exact List.forall_mem_singleton.mpr above
  · rw [if_neg style]
    exact ⟨.refl base p, ⟨_, rfl⟩, traits, nodes⟩

theorem does_setStyleProperties (number : e.number = l.length) (above : base ≤ l.length)
    (properties : List (String × String))
    (nodes : p.nodes.toList = l ++ .element tag traits items :: r) :
    Does base p (surface.setStyleProperties e properties p)
      (fun _ nodes => nodes = l ++ .element tag (traits ++ propertyTraits properties) items :: r)
      (HasElement l tag items r) := by
  induction properties generalizing p traits with
  | nil =>
    rw [propertyTraits, List.map_nil, List.append_nil]
    exact Does.pure () nodes
  | cons a rest ih =>
    apply (does_setStyleProperty number above a.1 a.2 nodes).bind fun _ h => h
    intro _ q _ told
    apply (ih told).weaken fun _ h => h
    rintro _ _ rfl
    rw [List.append_assoc]
    rfl

theorem does_setTextContent (number : e.number = l.length) (above : base ≤ l.length)
    (text : String) (nodes : p.nodes.toList = l ++ .element tag traits items :: r) :
    Does base p (surface.setTextContent e text p)
      (fun _ nodes => nodes =
        l ++ .element tag traits (if text = "" then [] else [.text text]) :: r)
      (HasElement l tag items r) := by
  show Does base p (setTextContent e text p) _ _
  rw [setTextContent, number]
  refine does_call_change (does_record ?_) _ nodes ⟨traits, rfl⟩
  exact List.forall_mem_singleton.mpr above

/-- A node that stands nowhere is put behind what stands in an element. -/
theorem does_appendChild (number : e.number = l.length) (above : base ≤ l.length) {k : Nat}
    (behind : l.length ≤ k) (nodes : p.nodes.toList = l ++ .element tag traits items :: r)
    (absent : ∀ h ∈ p.nodes.toList, .node k ∉ h.items) :
    Does base p (surface.appendChild e ⟨k⟩ p)
      (fun _ nodes => nodes = l ++ .element tag traits (items ++ [.node k]) :: r)
      (fun nodes => nodes = p.nodes.toList) := by
  have changes : ∀ j ∈ (Call.appendChild e.number k).changes, base ≤ j := by
    simp only [Call.changes, List.mem_cons, List.not_mem_nil, number, or_false]
    omega
  apply (does_attempt changes).bind fun _ h => h
  intro _ q _ unchanged
  apply (does_takeOut [k]).bind fun _ h => h
  intro _ q' _ taken
  apply (does_change e.number _).weaken fun _ h => h
  rintro _ _ rfl
  have nowhere : ∀ h ∈ q.nodes.toList, ∀ j ∈ [k], .node j ∉ h.items := by
    rw [unchanged]
    intro h mem j one
    rw [List.mem_singleton.mp one]
    exact absent h mem
  rw [taken, map_without_of_absent nowhere, unchanged, nodes, number, modify_length]
  rfl

/-- Telling an element something, or failing to, keeps what is before it. -/
theorem kept_of_hasElement {nodes : List Held} (closed : Closed l)
    (inside : ∀ k, .node k ∉ items) (has : HasElement l tag items [] nodes) : Kept l nodes := by
  obtain ⟨traits, rfl⟩ := has
  refine ⟨List.prefix_append _ _, closed.append ?_⟩
  intro h mem k stands
  rw [List.mem_singleton.mp mem] at stands
  exact absurd stands (inside k)

end

/-! ## Building nodes -/

theorem does_createElement (tag : String) :
    Does base p (surface.createElement tag p)
      (fun e nodes => e = ⟨p.nodes.size, tag, p.setting.kindOf tag, ""⟩ ∧
        nodes = p.nodes.toList ++ [.element tag [] []])
      (fun nodes => nodes = p.nodes.toList) := by
  apply (does_attempt (List.forall_mem_nil _)).bind fun _ h => h
  intro _ q setting unchanged
  show Does base q ((handOut (.element tag [] []) >>= fun k =>
    (pure ⟨k, tag, q.setting.kindOf tag, ""⟩ : Action Element)) q) _ _
  apply (does_handOut _).bind fun _ h => h
  rintro _ q' _ ⟨rfl, nodes⟩
  apply Does.pure
  rw [unchanged] at nodes
  rw [← Array.length_toList, unchanged, Array.length_toList, setting]
  exact ⟨rfl, nodes⟩

theorem does_createTextNode (text : String) :
    Does base p (surface.createTextNode text p)
      (fun node nodes => node = ⟨p.nodes.size⟩ ∧ nodes = p.nodes.toList ++ [.text text])
      (fun nodes => nodes = p.nodes.toList) := by
  apply (does_record (List.forall_mem_nil _)).bind fun _ h => h
  intro _ q _ unchanged
  apply (does_handOut _).bind fun _ h => h
  rintro _ q' _ ⟨rfl, nodes⟩
  apply Does.pure
  rw [unchanged] at nodes
  rw [← Array.length_toList, unchanged, Array.length_toList]
  exact ⟨rfl, nodes⟩

theorem does_toNode (e : Element) {bad : List Held → Prop} :
    Does base p (surface.toNode e p)
      (fun node nodes => node = ⟨e.number⟩ ∧ nodes = p.nodes.toList) bad :=
  ⟨.refl base p, rfl, rfl⟩

mutual

/-- **A page builds a node behind the nodes that it has handed out before, and changes none of
them.** If it throws, it has handed out some more, and has put none of them in an old one. -/
theorem does_realize {p : Page} {l : List Held} (n : JsonMarkup.Node)
    (nodes : p.nodes.toList = l) (closed : Closed l) (above : base ≤ l.length) :
    Does base p (surface.realize n p)
      (fun node nodes => node = ⟨l.length⟩ ∧ nodes = l ++ n.onPage p.setting l.length)
      (Kept l) := by
  have size : p.nodes.size = l.length := by rw [← nodes, Array.length_toList]
  have kept : ∀ nodes, nodes = p.nodes.toList → Kept l nodes := by
    rintro _ rfl
    rw [nodes]
    exact ⟨List.prefix_rfl, closed⟩
  have created : ∀ tag, Does base p (surface.createElement tag p)
      (fun e nodes => e = ⟨l.length, tag, p.setting.kindOf tag, ""⟩ ∧
        nodes = l ++ [.element tag [] []]) (Kept l) := by
    intro tag
    apply (does_createElement tag).weaken kept
    rw [size, nodes]
    exact fun _ _ h => h
  have stopped (tag : String) (nodes : List Held) : HasElement l tag [] [] nodes → Kept l nodes :=
    kept_of_hasElement closed fun _ => List.not_mem_nil
  cases n with
  | text content =>
    apply (does_createTextNode content).weaken kept
    rw [size, nodes]
    exact fun _ _ h => h
  | error message =>
    apply (created Node.errorTag).bind fun _ h => h
    rintro _ q setting ⟨rfl, made⟩
    have noNode : ∀ k, .node k ∉ (if message = "" then [] else [Item.text message]) := by
      intro k stands
      split at stands
      · cases stands
      · cases List.mem_singleton.mp stands
    apply (does_setTextContent rfl above message made).bind (stopped _)
    intro _ q₁ _ filled
    apply (does_setStyleProperties rfl above Node.errorStyle filled).bind fun _ =>
      kept_of_hasElement closed noNode
    intro _ q₂ _ told
    apply (does_toNode _).weaken fun _ h => h
    rintro _ _ ⟨rfl, rfl⟩
    exact ⟨rfl, told⟩
  | element tag attributes style children =>
    apply (created tag).bind fun _ h => h
    rintro _ q setting ⟨rfl, made⟩
    apply (does_setAttributes rfl above attributes.toList made).bind (stopped tag)
    intro _ q₁ setting₁ told₁
    apply (does_setRawStyle rfl above style.text told₁).bind (stopped tag)
    intro _ q₂ setting₂ told₂
    apply (does_setStyleProperties rfl above style.properties.toList told₂).bind (stopped tag)
    intro _ q₃ setting₃ told₃
    have closed₃ : Closed q₃.nodes.toList := by
      rw [told₃]
      apply closed.append
      intro h mem k stands
      rw [List.mem_singleton.mp mem] at stands
      cases stands
    apply (does_realizeChildren children rfl above told₃ (told₃ ▸ closed₃)).bind fun _ h => h
    intro _ q₄ _ built
    apply (does_toNode _).weaken fun _ h => h
    rintro _ _ ⟨rfl, rfl⟩
    rw [built, setting₃, setting₂, setting₁, setting, List.length_append]
    exact ⟨rfl, rfl⟩

/-- A page builds nodes and puts each behind what stands in an element. -/
theorem does_realizeChildren {p : Page} {l r : List Held} {tag : String} {traits : List Trait}
    {items : List Item} {e : Element} (children : List JsonMarkup.Node)
    (number : e.number = l.length) (above : base ≤ l.length)
    (nodes : p.nodes.toList = l ++ .element tag traits items :: r)
    (closed : Closed (l ++ .element tag traits items :: r)) :
    Does base p (surface.realizeChildren e children p)
      (fun _ nodes =>
        let k := (l ++ .element tag traits items :: r).length
        nodes = l ++ .element tag traits (items ++ (numbersFrom k children).map .node) ::
          (r ++ onPageOf p.setting k children))
      (Kept l) := by
  cases children with
  | nil =>
    apply Does.pure
    simp only [numbersFrom, onPageOf, List.map_nil, List.append_nil]
    exact nodes
  | cons n rest =>
    let k := (l ++ .element tag traits items :: r).length
    have behind : l.length < k := by
      simp only [k, List.length_append, List.length_cons]
      omega
    have before : l <+: l ++ .element tag traits items :: r := List.prefix_append _ _
    apply (does_realize n nodes closed (by omega)).bind fun _ kept => ⟨before.trans kept.1, kept.2⟩
    rintro _ q setting ⟨rfl, made⟩
    have closed' : Closed q.nodes.toList := made ▸ closed_append_onPage closed n
    have absent : ∀ h ∈ q.nodes.toList, .node k ∉ h.items := made ▸ absent_append_onPage closed n
    have split : q.nodes.toList =
        l ++ .element tag traits items :: (r ++ n.onPage p.setting k) := by
      rw [made, List.append_assoc, List.cons_append]
    apply (does_appendChild number above (Nat.le_of_lt behind) split absent).bind
    · rintro _ rfl
      refine ⟨?_, closed'⟩
      rw [split]
      exact List.prefix_append _ _
    · intro _ q' setting' appended
      have length : (l ++ .element tag traits (items ++ [.node k]) ::
          (r ++ n.onPage p.setting k)).length = k + n.handles := by
        simp only [k, List.length_append, List.length_cons, length_onPage]
        omega
      have closed'' : Closed (l ++ .element tag traits (items ++ [.node k]) ::
          (r ++ n.onPage p.setting k)) := by
        rw [split] at closed'
        apply closed'.replace
        intro j stands
        rcases List.mem_append.mp stands with old | new
        · exact closed' _ (List.mem_append_right _ List.mem_cons_self) j old
        · cases List.mem_singleton.mp new
          rw [← split, made, List.length_append, length_onPage]
          have := Surface.Node.handles_pos n
          omega
      apply (does_realizeChildren rest number above appended closed'').weaken fun _ h => h
      rintro _ _ rfl
      simp only [length, setting', setting, numbersFrom, onPageOf, List.map_cons,
        List.append_assoc, List.singleton_append, k]

end

/-- A page builds nodes one after the other behind the nodes that it has handed out before. -/
theorem does_realizeAll {l : List Held} (ns : List JsonMarkup.Node) (nodes : p.nodes.toList = l)
    (closed : Closed l) (above : base ≤ l.length) :
    Does base p (surface.realizeAll ns p)
      (fun built nodes => built = (numbersFrom l.length ns).map Node.mk ∧
        nodes = l ++ onPageOf p.setting l.length ns)
      (Kept l) := by
  induction ns generalizing p l with
  | nil =>
    refine Does.pure [] ⟨rfl, ?_⟩
    rw [nodes, onPageOf, List.append_nil]
  | cons n rest ih =>
    apply (does_realize n nodes closed above).bind fun _ h => h
    rintro _ q setting ⟨rfl, made⟩
    have before : l <+: l ++ n.onPage p.setting l.length := List.prefix_append _ _
    have length : (l ++ n.onPage p.setting l.length).length = l.length + n.handles := by
      rw [List.length_append, length_onPage]
    have later := ih made (closed_append_onPage closed n) (by omega)
    apply later.bind fun _ kept => ⟨before.trans kept.1, kept.2⟩
    rintro _ q' _ ⟨rfl, all⟩
    refine Does.pure _ ⟨?_, ?_⟩
    · rw [length, numbersFrom, List.map_cons]
    · rw [all, length, setting, onPageOf, List.append_assoc]

/-! ## Mounting nodes -/

/-- The nodes have been built behind those that were handed out before, and then they have taken
the place of what stood in an element. -/
structure Mounted (p : Page) (e : Element) (ns : List JsonMarkup.Node) (q : Page) : Prop where
  setting : q.setting = p.setting
  found : q.found = p.found
  nodes : q.nodes.toList =
    (p.nodes.toList ++ onPageOf p.setting p.nodes.size ns).modify e.number
      (.fill fun _ => (numbersFrom p.nodes.size ns).map .node)

/-- The page has thrown while new nodes were built. -/
structure Failed (p : Page) (error : Error) (q : Page) : Prop where
  leads : Leads p.nodes.size p q
  thrown : ∃ text, error = .exception text
  kept : Kept p.nodes.toList q.nodes.toList

/-- **An element of a page is changed only if all nodes have been built.** -/
theorem mountNodes_ends (closed : Closed p.nodes.toList) (e : Element)
    (ns : List JsonMarkup.Node) :
    match surface.mountNodes e ns p with
    | .ok () q => p.Mounted e ns q
    | .error error q => p.Failed error q := by
  have size : p.nodes.toList.length = p.nodes.size := Array.length_toList
  have built := does_realizeAll ns rfl closed (Nat.le_of_eq size.symm)
  have whole : surface.mountNodes e ns p =
      EStateM.bind (surface.realizeAll ns) (surface.replaceChildren e) p := rfl
  cases ran : surface.realizeAll ns p with
  | error error q =>
    rw [ran] at built
    rw [whole, EStateM.bind, ran]
    exact ⟨built.1, built.2.1, built.2.2⟩
  | ok children q =>
    rw [ran] at built
    obtain ⟨leads, rfl, nodes⟩ := built
    rw [whole, EStateM.bind, ran]
    refine ⟨leads.setting, leads.found, ?_⟩
    have numbers : ((numbersFrom p.nodes.size ns).map Node.mk).map (·.number) =
        numbersFrom p.nodes.size ns := by
      rw [List.map_map]
      exact List.map_id _
    have absent : ∀ h ∈ q.nodes.toList, ∀ k ∈ numbersFrom p.nodes.size ns, .node k ∉ h.items := by
      rw [nodes, ← size]
      exact absent_append_onPageOf closed ns
    rw [size, numbers, Array.toList_modify, Array.toList_map, map_without_of_absent absent, nodes,
      size]

end Page

end Web

end JsonMarkup
