import JsonMarkup.Proofs.Node.Shown
import JsonMarkup.Proofs.Render.Entering

/-!
# Warnings and error nodes

A rendering warns each time it puts an error node in the place of a fragment. An error node may be
thrown away later: the text of an element replaces its children, and an attribute that cannot be
used replaces the whole element.

**Main statement (`accounts_step`).** The messages of the error nodes in the open elements, from the
outermost to the innermost, are kept by a step and followed by the message of its warning. Only
while a value is wanted for an attribute may those in the element of the attribute be thrown away.
-/

namespace JsonMarkup

/-! ## Warnings -/

/-- The message of a warning that an error node is put in the place of a fragment. -/
def Event.warning? : Event → Option String
  | .substituted message => some message
  | _ => none

def warnings (events : List Event) : List String := events.filterMap Event.warning?

/-- The message of a trace entry that warns of an error node. -/
def TraceEntry.warning? (e : TraceEntry) : Option String :=
  if e.message = "substituting error node" then e.fields.lookup "error" else none

/-- The warnings in the trace are those of the events. -/
theorem warnings_traceOf (maxDepth : Option Nat) (events : List Event) :
    (traceOf maxDepth events).filterMap TraceEntry.warning? = warnings events := by
  have one : ∀ e : Event, e.traceEntry?.bind TraceEntry.warning? = e.warning? := by
    intro e
    cases e <;> simp [Event.traceEntry?, Event.warning?, TraceEntry.warning?]
  have span : (TraceEntry.span maxDepth).warning? = none := by
    simp [TraceEntry.span, TraceEntry.warning?]
  have beginning : TraceEntry.beginning.warning? = none := by
    simp [TraceEntry.beginning, TraceEntry.warning?]
  rw [traceOf, List.filterMap_cons_none span, List.filterMap_cons_none beginning,
    List.filterMap_filterMap]
  exact List.filterMap_congr fun e _ => one e

theorem warnings_append (es fs : List Event) : warnings (es ++ fs) = warnings es ++ warnings fs :=
  List.filterMap_append

/-! ## Messages in open elements -/

/-- The messages of the error nodes in an element, in document order. -/
def Element.messages (e : Element) : List String := Node.messagesAll e.children.toList

namespace Element

@[simp]
theorem messages_append (e : Element) (n : Node) :
    (e.append n).messages = e.messages ++ n.messages := by
  rw [messages, append, Array.toList_push, Node.messagesAll_append]
  simp [messages, Node.messagesAll]

@[simp]
theorem messages_setText (e : Element) (text : String) : (e.setText text).messages = [] := by
  unfold messages setText
  dsimp only
  split <;> rfl

@[simp]
theorem messages_toNode (e : Element) : e.toNode.messages = e.messages :=
  Node.messages_element _ _ _ _

end Element

namespace Render

/-- The messages in open elements, those of the outermost first. -/
def openMessages : List Frame → List String
  | [] => []
  | f :: outer => openMessages outer ++ f.element.messages

/-- The messages in the open elements and in the one that a value is wanted for. -/
def Goal.messages (a : Around) : Goal → List String
  | .document => []
  | .content _ => openMessages a.frames
  | .item element _ | .namedValue element _ _ | .property element _ _ _ =>
    openMessages a.frames ++ element.messages

/-- The messages in what has been rendered and not yet been yielded. -/
def State.messages : State → List String
  | .resolving goal _ a | .awaiting goal _ a => goal.messages a
  | .next a => openMessages a.frames
  | .finished => []

/-- The messages in what an outcome yields and in what is left unyielded. -/
def Outcome.messages (o : Outcome) : List String :=
  Node.messagesAll o.yielded ++ o.state.messages

/-- Where a value is wanted for an attribute, no error node stands in the element yet. -/
def Goal.Clean : Goal → Prop
  | .namedValue element _ _ | .property element _ _ _ => element.messages = []
  | _ => True

def State.Clean : State → Prop
  | .resolving goal _ _ | .awaiting goal _ _ => goal.Clean
  | _ => True

/-! ## Steps account for their messages -/

/-- The messages after a step are among those before it and its warnings; and they are all of them
if nothing is in danger of being thrown away. -/
structure Accounts (before : List String) (clean : Prop) (s : Step) : Prop where
  among : s.outcome.messages.Sublist (before ++ warnings s.events)
  all : clean → s.outcome.messages = before ++ warnings s.events

theorem Accounts.of_eq {before : List String} {clean : Prop} {s : Step}
    (h : s.outcome.messages = before ++ warnings s.events) : Accounts before clean s where
  among := h ▸ List.Sublist.refl _
  all := fun _ => h

/-- A step that throws away these messages. -/
theorem Accounts.of_lost {kept lost : List String} {s : Step}
    (h : s.outcome.messages = kept ++ warnings s.events) :
    Accounts (kept ++ lost) (lost = []) s where
  among := by
    rw [h]
    exact (List.sublist_append_left kept lost).append_right _
  all := fun none => by rw [h, none, List.append_nil]

variable {policy : Policy}

/-- A node that is handed over brings its messages along. -/
theorem messages_deliver (node : Node) (a : Around) :
    (deliver node a).messages = openMessages a.frames ++ node.messages := by
  obtain ⟨frames, rest⟩ := a
  cases frames with
  | nil => simp [deliver, Outcome.messages, Outcome.yielded, Outcome.state, State.messages,
      openMessages, Node.messagesAll]
  | cons f outer =>
    have appended : ∀ element : Element, openMessages outer ++ (element.append node).messages =
        openMessages outer ++ element.messages ++ node.messages := by
      intro element
      rw [Element.messages_append, List.append_assoc]
    cases f with
    | spread element entries items => exact appended element
    | members element entries => exact appended element

theorem accounts_reject (goal : Goal) (error : RenderError) (a : Around) :
    Accounts (goal.messages a) goal.Clean (reject goal error a) := by
  have delivered : (deliver (.error error.message) a).messages =
      openMessages a.frames ++ [error.message] := messages_deliver _ a
  cases goal with
  | document => exact .of_eq rfl
  | item element items =>
    refine .of_eq ?_
    show openMessages a.frames ++ (element.append (.error error.message)).messages = _
    rw [Element.messages_append, ← List.append_assoc]
    rfl
  | content tag => exact .of_eq delivered
  | namedValue element name entries => exact .of_lost delivered
  | property element name more entries => exact .of_lost delivered

theorem accounts_enter (tag : String) (value : Source) (a : Around) :
    Accounts (openMessages a.frames) True (enter policy tag value a) := by
  have refused : ∀ error : RenderError, Accounts (openMessages a.frames) True
      ⟨[.enteredTag tag a.depth, .substituted error.message],
        deliver (.error error.message) a⟩ :=
    fun error => .of_eq (messages_deliver _ a)
  unfold enter
  dsimp only
  split
  · exact refused _
  · split
    · exact .of_eq (List.append_nil _).symm
    · exact refused _

theorem accounts_merge (element : Element) (entries props : List (String × Source)) (a : Around) :
    Accounts (openMessages a.frames ++ element.messages) (element.messages = [])
      (merge element entries a props) := by
  cases props with
  | nil => exact .of_eq (List.append_nil _).symm
  | cons p more =>
    rw [merge]
    split
    · exact accounts_reject (.property element p.1 more entries) _ a
    · exact .of_eq (List.append_nil _).symm

theorem accounts_apply (element : Element) (name : String) (entries : List (String × Source))
    (a : Around) (value : Value) :
    Accounts (openMessages a.frames ++ element.messages) (element.messages = [])
      (apply element name entries a value) := by
  refine apply_cases (fun changed _ kept => ?_)
    (fun props _ => accounts_merge element entries props a)
    (fun error => accounts_reject (.namedValue element name entries) error a)
  rcases kept with same | ⟨text, rfl⟩
  · refine .of_eq ?_
    show openMessages a.frames ++ changed.messages = _
    rw [Element.messages, same]
    exact (List.append_nil _).symm
  · -- The text replaces what stands in the element.
    refine .of_lost ?_
    show openMessages a.frames ++ (element.setText text).messages = _
    rw [Element.messages_setText]
    rfl

theorem accounts_conclude (goal : Goal) (a : Around) (value : Value) :
    Accounts (goal.messages a) goal.Clean (conclude goal a value) := by
  have refused := fun error => accounts_reject goal error a
  cases goal with
  | document =>
    cases value with
    | text t => exact .of_eq rfl
    | mapping entries => exact .of_eq rfl
    | _ => exact refused _
  | item element items =>
    cases value with
    | text t =>
      refine .of_eq ?_
      show openMessages a.frames ++ (element.append (.text t)).messages = _
      rw [Element.messages_append, Node.messages_text, List.append_nil]
      exact (List.append_nil _).symm
    | mapping entries => exact .of_eq (List.append_nil _).symm
    | _ => exact refused _
  | content tag =>
    cases value with
    | text t =>
      refine .of_eq ((messages_deliver _ a).trans ?_)
      rw [Element.messages_toNode, Element.messages_setText]
      rfl
    | mapping entries => exact .of_eq rfl
    | list items => exact .of_eq rfl
    | _ => exact refused _
  | namedValue element name entries => exact accounts_apply element name entries a value
  | property element name more entries =>
    rw [conclude]
    split
    · rename_i change _
      let changed : Element := { element with style := setProperty element.style name change }
      exact accounts_merge changed entries more a
    · exact refused _

theorem accounts_takeNext (a : Around) :
    Accounts (openMessages a.frames) True (takeNext policy a) := by
  obtain ⟨frames, rest⟩ := a
  cases frames with
  | nil =>
    cases rest with
    | nil => exact .of_eq rfl
    | cons e rest => exact accounts_enter e.1 e.2 ⟨[], rest⟩
  | cons f outer =>
    have left : ∀ element : Element, (deliver element.toNode ⟨outer, rest⟩).messages =
        openMessages outer ++ element.messages ++ [] := by
      intro element
      rw [messages_deliver, Element.messages_toNode, List.append_nil]
    cases f with
    | spread element entries items =>
      cases entries with
      | cons e entries =>
        exact accounts_enter e.1 e.2 ⟨.spread element entries items :: outer, rest⟩
      | nil =>
        cases items with
        | cons item items => exact .of_eq (List.append_nil _).symm
        | nil => exact .of_eq (left element)
    | members element entries =>
      cases entries with
      | cons e entries =>
        dsimp only [takeNext]
        split
        · exact .of_eq (List.append_nil _).symm
        · exact accounts_enter e.1 e.2 ⟨.members element entries :: outer, rest⟩
      | nil => exact .of_eq (left element)

/-- **A step accounts for its messages.** -/
theorem accounts_step (s : State) : Accounts s.messages s.Clean (step policy s) := by
  cases s with
  | resolving goal source a =>
    cases source with
    | ready value => exact accounts_conclude goal a value
    | pending p => exact .of_eq (List.append_nil _).symm
  | awaiting goal p a =>
    cases p with
    | deferred label yields source =>
      cases yields <;> exact .of_eq (List.append_nil _).symm
    | failing label yields reason =>
      cases yields with
      | zero =>
        -- The failure of the pending value itself is no warning.
        have rejected := accounts_reject goal (.unresolved reason) a
        exact ⟨rejected.among, rejected.all⟩
      | succ yields => exact .of_eq (List.append_nil _).symm
    | gate id => exact .of_eq (List.append_nil _).symm
  | next a => exact ⟨(accounts_takeNext a).among, fun _ => (accounts_takeNext a).all trivial⟩
  | finished => exact .of_eq rfl

end Render
end JsonMarkup
