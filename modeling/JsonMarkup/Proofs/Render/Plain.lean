import JsonMarkup.Proofs.Render.Remaining

/-!
# Rendering by plain recursion

Where no gate is in the way, what a document renders to can be said by recursion on the document,
without open elements, steps or polls. `Source.fragment` gives the nodes of a document or of an
entry of a list, `Source.content` the node of a tag with this value.

**Theorem (`renderNodes_eq_fragment`).** A document without gates renders to its fragment.

**Building an element** (`KeptBySetting.built`). What holds of a new element and is kept by whatever
an attribute sets, and by the children, holds of the element that has been built.

The walk and the recursion meet in `enter_leads`: from wherever a tag is entered, the walk comes to
hand over the node of the recursion, and leaves what stands around the tag as it was.
-/

namespace JsonMarkup

/-- The node in the place of a fragment that failed. -/
def failed (error : RenderError) : Node := .error error.message

/-! ## What pending values come to -/

mutual

/-- What a position comes to once it has settled; a gate counts as cancelled. -/
def Source.outcome : Source → Except String Value
  | .ready v => .ok v
  | .pending p => p.outcome

/-- What a pending value comes to; a gate counts as cancelled. -/
def Pending.outcome : Pending → Except String Value
  | .deferred _ _ s => s.outcome
  | .failing _ _ reason => .error reason
  | .gate _ => .error cancelledReason

end

namespace Render

/-! ## Attributes -/

/-- Merge properties into the style of an element; the first that is faulty ends it. -/
def merged (element : Element) : List (String × Source) → Except RenderError Element
  | [] => .ok element
  | (name, value) :: more =>
    if name = "" then .error (.badAttribute styleName element.tag)
    else
      match value.outcome with
      | .error reason => .error (.unresolved reason)
      | .ok v =>
        match propertyValue? v with
        | some v => merged { element with style := setProperty element.style name v } more
        | none => .error (.badAttribute styleName element.tag)

/-- Apply an attribute that has this value to an element. -/
def appliedValue (element : Element) (name : String) (value : Value) :
    Except RenderError Element :=
  let refused := .error (.badAttribute name element.tag)
  if name = textName then
    match value with
    | .text text => .ok (element.setText text)
    | _ => refused
  else if name = styleName then
    match value with
    | .text css => .ok { element with style := element.style.setText css }
    | .mapping properties => merged element properties
    | _ => refused
  else
    match value with
    | .text text => if Text.isName name then .ok (element.setAttribute name text) else refused
    | _ => refused

def applied (element : Element) (name : String) (source : Source) : Except RenderError Element :=
  match source.outcome with
  | .error reason => .error (.unresolved reason)
  | .ok value => appliedValue element name value

end Render

open Render

/-! ## Nodes -/

/-- The node of a tag at a depth, if `content` is its node where nothing keeps it out. -/
def admitted (policy : Policy) (depth : Nat) (tag : String) (content : Node) : Node :=
  match policy.check tag depth with
  | .error violation => failed (.forbidden violation)
  | .ok () => if Text.isName tag then content else failed (.invalidTagName tag)

/-- The node of a tag whose element has been built, or has not. -/
def finished : Except RenderError Element → Node
  | .ok element => element.toNode
  | .error error => failed error

mutual

/-- The nodes of a document, or of an entry of a list, that stands below `depth` elements. -/
def Source.fragment (policy : Policy) (depth : Nat) : Source → List Node
  | .ready v => v.fragment policy depth
  | .pending p => p.fragment policy depth

/-- The nodes of a pending value in the place of a document or an entry of a list. -/
def Pending.fragment (policy : Policy) (depth : Nat) : Pending → List Node
  | .deferred _ _ s => s.fragment policy depth
  | .failing _ _ reason => [failed (.unresolved reason)]
  | .gate _ => [failed (.unresolved cancelledReason)]

/-- The nodes of a value in the place of a document or an entry of a list. -/
def Value.fragment (policy : Policy) (depth : Nat) : Value → List Node
  | .text text => [.text text]
  | .mapping entries => entriesNodes policy depth entries
  | v => [failed (.unsupportedShape v.kind)]

/-- The node of a tag that may stand below `depth` elements and that has this value. -/
def Source.content (policy : Policy) (depth : Nat) (tag : String) : Source → Node
  | .ready v => v.content policy depth tag
  | .pending p => p.content policy depth tag

/-- The node of a tag with a pending value. -/
def Pending.content (policy : Policy) (depth : Nat) (tag : String) : Pending → Node
  | .deferred _ _ s => s.content policy depth tag
  | .failing _ _ reason => failed (.unresolved reason)
  | .gate _ => failed (.unresolved cancelledReason)

/-- The node of a tag with a value that is ready. -/
def Value.content (policy : Policy) (depth : Nat) (tag : String) : Value → Node
  | .text text => ((Element.new tag).setText text).toNode
  | .list items => .element tag Fields.empty Style.empty (itemsNodes policy (depth + 1) items)
  | .mapping entries => finished (built policy (depth + 1) (Element.new tag) entries)
  | v => failed (.unsupportedContent tag v.kind)

/-- The nodes of entries that are tags, below `depth` elements. -/
def entriesNodes (policy : Policy) (depth : Nat) : List (String × Source) → List Node
  | [] => []
  | (tag, s) :: rest =>
    admitted policy depth tag (s.content policy depth tag) :: entriesNodes policy depth rest

/-- The nodes of the entries of a list, below `depth` elements. -/
def itemsNodes (policy : Policy) (depth : Nat) : List Source → List Node
  | [] => []
  | s :: rest => s.fragment policy depth ++ itemsNodes policy depth rest

/-- Go through the entries of a mapping that is the content of an element, with children below
`depth` elements. -/
def built (policy : Policy) (depth : Nat) (element : Element) :
    List (String × Source) → Except RenderError Element
  | [] => .ok element
  | (key, s) :: rest =>
    match attributeName? key with
    | some name => applied element name s >>= fun element => built policy depth element rest
    | none =>
      built policy depth
        (element.append (admitted policy depth key (s.content policy depth key))) rest

end

/-- The node of a tag with its value, below `depth` elements. -/
def tagNode (policy : Policy) (depth : Nat) (tag : String) (value : Source) : Node :=
  admitted policy depth tag (value.content policy depth tag)

namespace Render

/-! ## What building an element keeps -/

/-- Whatever an attribute sets in an element keeps `P`. -/
structure KeptBySetting (P : Element → Prop) : Prop where
  text : ∀ {e : Element} (text : String), P e → P (e.setText text)
  rawStyle : ∀ {e : Element} (css : String), P e → P { e with style := e.style.setText css }
  property : ∀ {e : Element} (name : String) (change : Option String), P e →
    P { e with style := setProperty e.style name change }
  named : ∀ {e : Element} (name value : String), P e → P (e.setAttribute name value)

variable {P : Element → Prop} {e e' : Element}

theorem KeptBySetting.merged (h : KeptBySetting P) (he : P e) {properties : List (String × Source)}
    (done : merged e properties = .ok e') : P e' := by
  induction properties generalizing e with
  | nil =>
    cases done
    exact he
  | cons p more ih =>
    obtain ⟨name, value⟩ := p
    rw [Render.merged] at done
    split at done
    · cases done
    · split at done
      · cases done
      · split at done
        · exact ih (h.property name _ he) done
        · cases done

theorem KeptBySetting.applied (h : KeptBySetting P) (he : P e) {name : String} {s : Source}
    (done : applied e name s = .ok e') : P e' := by
  rw [Render.applied] at done
  split at done
  · cases done
  · unfold appliedValue at done
    dsimp only at done
    split at done
    · split at done <;> cases done
      exact h.text _ he
    · split at done
      · split at done
        · cases done
          exact h.rawStyle _ he
        · exact h.merged he done
        · cases done
      · split at done
        · split at done <;> cases done
          exact h.named _ _ he
        · cases done

/-- What settings and children keep is kept while an element is built. -/
theorem KeptBySetting.built (h : KeptBySetting P) {policy : Policy} {depth : Nat} (he : P e)
    {entries : List (String × Source)}
    (child : ∀ n ∈ entriesNodes policy depth entries, ∀ {e : Element}, P e → P (e.append n))
    (done : built policy depth e entries = .ok e') : P e' := by
  induction entries generalizing e with
  | nil =>
    cases done
    exact he
  | cons entry rest ih =>
    obtain ⟨key, s⟩ := entry
    rw [entriesNodes, List.forall_mem_cons] at child
    rw [JsonMarkup.built] at done
    split at done
    · rename_i name _
      cases changed : Render.applied e name s with
      | error error =>
        rw [changed] at done
        cases done
      | ok changedElement =>
        rw [changed] at done
        exact ih (h.applied he changed) child.2 done
    · exact ih (child.1 he) child.2 done

end Render

/-- Put nodes behind the children of an element, one after the other. -/
def Element.appendAll (e : Element) (nodes : List Node) : Element := nodes.foldl Element.append e

theorem Element.toNode_appendAll (e : Element) (nodes : List Node) :
    (e.appendAll nodes).toNode =
      .element e.tag e.attributes e.style (e.children.toList ++ nodes) := by
  induction nodes generalizing e with
  | nil => simp [Element.appendAll, Element.toNode]
  | cons n rest ih =>
    rw [Element.appendAll, List.foldl_cons, ← Element.appendAll, ih]
    simp [Element.append]

/-- No gate stands somewhere: whatever is pending there settles or fails by itself. -/
def NoGates (stands : Nat → Bool) : Prop := ∀ g, stands g = false

theorem noGates_entries_cons {key : String} {s : Source} {rest : List (String × Source)}
    (h : NoGates (entriesMention · ((key, s) :: rest))) :
    NoGates (s.mentions ·) ∧ NoGates (entriesMention · rest) := by
  simp only [NoGates, entriesMention, Bool.or_eq_false_iff] at h
  exact ⟨fun g => (h g).1, fun g => (h g).2⟩

theorem noGates_items_cons {s : Source} {rest : List Source}
    (h : NoGates (itemsMention · (s :: rest))) :
    NoGates (s.mentions ·) ∧ NoGates (itemsMention · rest) := by
  simp only [NoGates, itemsMention, Bool.or_eq_false_iff] at h
  exact ⟨fun g => (h g).1, fun g => (h g).2⟩

mutual

/-- What a position without gates comes to has no gates in it. -/
theorem noGates_outcome {v : Value} : ∀ {s : Source}, NoGates (s.mentions ·) → s.outcome = .ok v →
    NoGates (v.mentions ·)
  | .ready _, h, hv => by
    cases hv
    exact h
  | .pending _, h, hv => noGates_pendingOutcome h hv
termination_by structural s => s

theorem noGates_pendingOutcome {v : Value} : ∀ {p : Pending}, NoGates (p.mentions ·) →
    p.outcome = .ok v → NoGates (v.mentions ·)
  | .deferred _ _ _, h, hv => noGates_outcome (s := _) h hv
  | .failing _ _ _, _, hv => nomatch hv
  | .gate _, _, hv => nomatch hv
termination_by structural p => p

end

theorem not_noGates_gate {id : Nat} : ¬ NoGates ((Pending.gate id).mentions ·) := by
  intro h
  simpa [Pending.mentions] using h id

namespace Render

/-! ## Runs of steps -/

/-- Steps, and polls where a value that will settle is in the way, lead from one outcome to another
without a node being finished at the top level. -/
inductive Leads (policy : Policy) : Outcome → Outcome → Prop
  | refl {o : Outcome} : Leads policy o o
  | step {s : State} {o : Outcome} : Leads policy (Render.step policy s).outcome o →
    Leads policy (.goOn s) o
  | resume {s : State} {o : Outcome} : Leads policy (Render.step policy s).outcome o →
    Leads policy (.suspend s) o

variable {policy : Policy}

theorem Leads.trans {o₁ o₂ o₃ : Outcome} (h₁ : Leads policy o₁ o₂) (h₂ : Leads policy o₂ o₃) :
    Leads policy o₁ o₃ := by
  induction h₁ with
  | refl => exact h₂
  | step _ ih => exact .step (ih h₂)
  | resume _ ih => exact .resume (ih h₂)

/-- What is foretold of an outcome is foretold of what it leads to. -/
theorem Leads.nodes_eq {o o' : Outcome} (h : Leads policy o o') {rest : State → List Node}
    (hrest : Foretells policy rest) : o.nodes rest = o'.nodes rest := by
  induction h with
  | refl => rfl
  | step _ ih => exact (hrest _).trans ih
  | resume _ ih => exact (hrest _).trans ih

/-- How the walk goes on with what a position came to. -/
def concluded (goal : Goal) (a : Around) : Except String Value → Outcome
  | .ok value => (conclude goal a value).outcome
  | .error reason => (reject goal (.unresolved reason) a).outcome

mutual

/-- A position without gates is waited for until it has settled. -/
theorem leads_resolving {goal : Goal} {a : Around} : ∀ {s : Source}, NoGates (s.mentions ·) →
    Leads policy (.goOn (.resolving goal s a)) (concluded goal a s.outcome)
  | .ready _, _ => .step .refl
  | .pending _, h => .step (leads_awaiting h)

theorem leads_awaiting {goal : Goal} {a : Around} : ∀ {p : Pending}, NoGates (p.mentions ·) →
    Leads policy (.goOn (.awaiting goal p a)) (concluded goal a p.outcome)
  | .deferred label yields s, h => by
    have settle : Leads policy (step policy (.awaiting goal (.deferred label 0 s) a)).outcome
        (concluded goal a s.outcome) := leads_resolving (s := s) h
    suffices wait : ∀ n,
        Leads policy (step policy (.awaiting goal (.deferred label n s) a)).outcome
          (concluded goal a s.outcome) from .step (wait yields)
    -- Each poll in vain counts the yields down.
    intro n
    induction n with
    | zero => exact settle
    | succ n ih => exact .resume ih
  | .failing label yields reason, _ => by
    suffices wait : ∀ n,
        Leads policy (step policy (.awaiting goal (.failing label n reason) a)).outcome
          (concluded goal a (.error reason)) from .step (wait yields)
    intro n
    induction n with
    | zero => exact .refl
    | succ n ih => exact .resume ih
  | .gate _, h => absurd h not_noGates_gate

end

/-! ## Attributes in the walk -/

/-- How the walk goes on with an element whose attribute has been applied, or has not. -/
def resumed (entries : List (String × Source)) (a : Around) : Except RenderError Element → Outcome
  | .ok element => resume element entries a
  | .error error => deliver (failed error) a

theorem leads_merge {entries : List (String × Source)} {a : Around} (element : Element) :
    ∀ {props : List (String × Source)}, NoGates (entriesMention · props) →
      Leads policy (merge element entries a props).outcome
        (resumed entries a (merged element props))
  | [], _ => .refl
  | (name, value) :: more, h => by
    obtain ⟨hvalue, hmore⟩ := noGates_entries_cons h
    rw [merge, merged]
    split
    · exact .refl
    · refine (leads_resolving hvalue).trans ?_
      cases value.outcome with
      | error reason => exact .refl
      | ok v =>
        simp only [concluded, conclude]
        cases propertyValue? v with
        | none => exact .refl
        | some v => exact leads_merge _ hmore

theorem leads_apply {entries : List (String × Source)} {a : Around} {element : Element}
    {name : String} {value : Value} (h : NoGates (value.mentions ·)) :
    Leads policy (apply element name entries a value).outcome
      (resumed entries a (appliedValue element name value)) := by
  unfold apply appliedValue
  dsimp only
  split
  · cases value <;> exact .refl
  · split
    · cases value with
      | mapping properties => exact leads_merge element h
      | _ => exact .refl
    · cases value with
      | text text =>
        dsimp only
        split
        · exact .refl
        · exact .refl
      | _ => exact .refl

/-! ## Nodes in the walk -/

/-- If the walk hands over the content of a tag, it hands over the node of the tag. -/
theorem leads_enter {tag : String} {value : Source} {a : Around}
    (h : Leads policy (.goOn (.resolving (.content tag) value a))
      (deliver (value.content policy a.depth tag) a)) :
    Leads policy (enter policy tag value a).outcome
      (deliver (tagNode policy a.depth tag value) a) := by
  unfold enter tagNode admitted
  dsimp only
  cases policy.check tag a.depth with
  | error violation => exact .refl
  | ok _ =>
    dsimp only
    split
    · exact h
    · exact .refl

/-- If the walk builds an element once an attribute has been applied, it builds it from the
attribute on. -/
theorem leads_namedValue {element : Element} {name : String} {s : Source}
    {rest : List (String × Source)} {a : Around} {built : Element → Except RenderError Element}
    (hs : NoGates (s.mentions ·))
    (h : ∀ element, Leads policy (resume element rest a) (deliver (finished (built element)) a)) :
    Leads policy (.goOn (.resolving (.namedValue element name rest) s a))
      (deliver (finished (applied element name s >>= built)) a) := by
  refine (leads_resolving hs).trans ?_
  unfold applied
  cases hv : s.outcome with
  | error reason => exact .refl
  | ok v =>
    refine (leads_apply (noGates_outcome hs hv)).trans ?_
    dsimp only
    cases appliedValue element name v with
    | error error => exact .refl
    | ok element => exact h element

mutual

/-- The walk hands over the content of a tag to what the tag stands in. -/
theorem leads_content {tag : String} {a : Around} : ∀ {s : Source}, NoGates (s.mentions ·) →
    Leads policy (.goOn (.resolving (.content tag) s a)) (deliver (s.content policy a.depth tag) a)
  | .ready _, h => .step (leads_valueContent h)
  | .pending p, h => (leads_resolving (s := .pending p) h).trans (leads_pendingContent h)
termination_by structural s => s

theorem leads_pendingContent {tag : String} {a : Around} :
    ∀ {p : Pending}, NoGates (p.mentions ·) →
      Leads policy (concluded (.content tag) a p.outcome) (deliver (p.content policy a.depth tag) a)
  | .deferred _ _ (.ready _), h => leads_valueContent h
  | .deferred _ _ (.pending p), h => leads_pendingContent (p := p) h
  | .failing _ _ _, _ => .refl
  | .gate _, h => absurd h not_noGates_gate
termination_by structural p => p

theorem leads_valueContent {tag : String} {a : Around} : ∀ {v : Value}, NoGates (v.mentions ·) →
    Leads policy (conclude (.content tag) a v).outcome (deliver (v.content policy a.depth tag) a)
  | .null, _ | .boolean _, _ | .number _, _ | .text _, _ => .refl
  | .list items, h => by
    have spread : Leads policy
        (.goOn (.next ⟨.spread (Element.new tag) [] items :: a.frames, a.rest⟩)) _ := leads_items h
    rwa [Element.toNode_appendAll] at spread
  | .mapping _, h => leads_members h
termination_by structural v => v

theorem leads_fragment {element : Element} {items : List Source} {a : Around} :
    ∀ {s : Source}, NoGates (s.mentions ·) →
      Leads policy (.goOn (.resolving (.item element items) s a))
        (.goOn (.next ⟨.spread (element.appendAll (s.fragment policy (a.depth + 1))) [] items ::
          a.frames, a.rest⟩))
  | .ready _, h => .step (leads_valueFragment h)
  | .pending p, h => (leads_resolving (s := .pending p) h).trans (leads_pendingFragment h)
termination_by structural s => s

theorem leads_pendingFragment {element : Element} {items : List Source} {a : Around} :
    ∀ {p : Pending}, NoGates (p.mentions ·) →
      Leads policy (concluded (.item element items) a p.outcome)
        (.goOn (.next ⟨.spread (element.appendAll (p.fragment policy (a.depth + 1))) [] items ::
          a.frames, a.rest⟩))
  | .deferred _ _ (.ready _), h => leads_valueFragment h
  | .deferred _ _ (.pending p), h => leads_pendingFragment (p := p) h
  | .failing _ _ _, _ => .refl
  | .gate _, h => absurd h not_noGates_gate
termination_by structural p => p

theorem leads_valueFragment {element : Element} {items : List Source} {a : Around} :
    ∀ {v : Value}, NoGates (v.mentions ·) →
      Leads policy (conclude (.item element items) a v).outcome
        (.goOn (.next ⟨.spread (element.appendAll (v.fragment policy (a.depth + 1))) [] items ::
          a.frames, a.rest⟩))
  | .null, _ | .boolean _, _ | .number _, _ | .text _, _ | .list _, _ => .refl
  | .mapping _, h => leads_spread h
termination_by structural v => v

/-- The walk appends the nodes of tags to the element that they stand in. -/
theorem leads_spread {element : Element} {items : List Source} {a : Around} :
    ∀ {entries : List (String × Source)}, NoGates (entriesMention · entries) →
      Leads policy (.goOn (.next ⟨.spread element entries items :: a.frames, a.rest⟩))
        (.goOn (.next ⟨.spread (element.appendAll (entriesNodes policy (a.depth + 1) entries)) []
          items :: a.frames, a.rest⟩))
  | [], _ => .refl
  | (tag, s) :: rest, h => by
    obtain ⟨hs, hrest⟩ := noGates_entries_cons h
    exact .step ((leads_enter (leads_content hs)).trans (leads_spread hrest))
termination_by structural entries => entries

/-- The walk appends the nodes of the entries of a list to the element, and hands it over. -/
theorem leads_items {element : Element} {a : Around} :
    ∀ {items : List Source}, NoGates (itemsMention · items) →
      Leads policy (.goOn (.next ⟨.spread element [] items :: a.frames, a.rest⟩))
        (deliver (element.appendAll (itemsNodes policy (a.depth + 1) items)).toNode a)
  | [], _ => .step .refl
  | s :: rest, h => by
    obtain ⟨hs, hrest⟩ := noGates_items_cons h
    rw [itemsNodes, Element.appendAll, List.foldl_append]
    exact .step ((leads_fragment hs).trans (leads_items hrest))
termination_by structural items => items

/-- The walk builds an element from the entries of a mapping, and hands it over. -/
theorem leads_members {element : Element} {a : Around} :
    ∀ {entries : List (String × Source)}, NoGates (entriesMention · entries) →
      Leads policy (.goOn (.next ⟨.members element entries :: a.frames, a.rest⟩))
        (deliver (finished (built policy (a.depth + 1) element entries)) a)
  | [], _ => .step .refl
  | (key, s) :: rest, h => by
    obtain ⟨hs, hrest⟩ := noGates_entries_cons h
    refine .step ?_
    rw [built]
    show Leads policy (takeNext policy _).outcome _
    unfold takeNext
    dsimp only
    cases attributeName? key with
    | some name => exact leads_namedValue hs fun element => leads_members hrest
    | none => exact (leads_enter (leads_content hs)).trans (leads_members hrest)
termination_by structural entries => entries

end

/-- **Wherever a tag is entered, its node is handed over.** -/
theorem enter_leads {tag : String} {value : Source} {a : Around} (h : NoGates (value.mentions ·)) :
    Leads policy (enter policy tag value a).outcome
      (deliver (tagNode policy a.depth tag value) a) :=
  leads_enter (leads_content h)

/-! ## Whole documents -/

mutual

/-- The fragment of a position is that of the value it comes to. -/
theorem fragment_eq_outcome {depth : Nat} : ∀ s : Source, s.fragment policy depth =
    match s.outcome with
    | .ok v => v.fragment policy depth
    | .error reason => [failed (.unresolved reason)]
  | .ready _ => rfl
  | .pending p => fragment_eq_pendingOutcome p
termination_by structural s => s

theorem fragment_eq_pendingOutcome {depth : Nat} : ∀ p : Pending, p.fragment policy depth =
    match p.outcome with
    | .ok v => v.fragment policy depth
    | .error reason => [failed (.unresolved reason)]
  | .deferred _ _ s => fragment_eq_outcome s
  | .failing _ _ _ => rfl
  | .gate _ => rfl
termination_by structural p => p

end

/-- The nodes still to come of entries at the top level are theirs. -/
theorem remaining_entries {entries : List (String × Source)}
    (h : NoGates (entriesMention · entries)) :
    (State.next ⟨[], entries⟩).remaining policy = entriesNodes policy 0 entries := by
  induction entries with
  | nil => rw [remaining_step policy]; rfl
  | cons entry rest ih =>
    obtain ⟨tag, s⟩ := entry
    obtain ⟨hs, hrest⟩ := noGates_entries_cons h
    have entered : Leads policy (enter policy tag s ⟨[], rest⟩).outcome
        (.yield (tagNode policy 0 tag s) (.next ⟨[], rest⟩)) := enter_leads hs
    have nodes := entered.nodes_eq (remaining_step policy)
    rw [remaining_step policy]
    refine Eq.trans nodes ?_
    rw [Outcome.nodes, ih hrest]
    rfl

/-- **Rendering is the recursion on the document** where no gate is in the way. -/
theorem renderNodes_eq_fragment {source : Source} (h : NoGates (source.mentions ·)) :
    renderNodes policy source = source.fragment policy 0 := by
  rw [renderNodes_eq_remaining, fragment_eq_outcome]
  have resolved : Leads policy (.goOn (State.start source))
      (concluded .document ⟨[], []⟩ source.outcome) := leads_resolving h
  refine (resolved.nodes_eq (remaining_step policy)).trans ?_
  have finished : State.remaining policy .finished = [] := remaining_finished policy
  cases hv : source.outcome with
  | error reason =>
    show failed _ :: State.remaining policy .finished = _
    rw [finished]
  | ok v =>
    cases v with
    | mapping entries => exact remaining_entries (noGates_outcome h hv)
    | _ =>
      show _ :: State.remaining policy .finished = _
      rw [finished]
      rfl

end Render

end JsonMarkup
