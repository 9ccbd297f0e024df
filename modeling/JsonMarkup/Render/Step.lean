import JsonMarkup.Event
import JsonMarkup.Policy.Basic
import JsonMarkup.Render.Error
import JsonMarkup.Render.State
import JsonMarkup.Text.Name

/-!
# Steps of a rendering

`step` does the next thing that a rendering has to do. A step looks at no more than one position of
the document and never waits, so a rendering is a sequence of steps, and whatever happens happens in
document order.

A failure never ends a rendering: an error node takes the place of the smallest fragment that owns
it. That is the document or the entry of a list for a value of the wrong shape, the tag for
everything else, an attribute that fails included.

Each step that does not end the rendering leaves less to do (`step_below`, in `Render.Progress`).
-/

namespace JsonMarkup.Render

/-- What a step leads to. -/
inductive Outcome where
  | goOn (state : State)
  | suspend (state : State)
  | yield (node : Node) (state : State)
  | stop

/-- What happens in a step. -/
structure Step where
  /-- The events of the step, in order. -/
  events : List Event
  outcome : Outcome

/-- First character of a key that names an attribute. -/
def sigil : Char := '$'

/-- The attribute that a key of a mapping names, if it names one. -/
def attributeName? (key : String) : Option String :=
  match key.toList with
  | [] => none
  | c :: name => if c = sigil then some (String.ofList name) else none

/-! ## Passing nodes on -/

/-- Hand a finished tag over to what it stands in. -/
def deliver (node : Node) (a : Around) : Outcome :=
  match a.frames with
  | [] => .yield node (.next a)
  | .spread element entries items :: outer =>
    .goOn (.next ⟨.spread (element.append node) entries items :: outer, a.rest⟩)
  | .members element entries :: outer =>
    .goOn (.next ⟨.members (element.append node) entries :: outer, a.rest⟩)

/-- Put an error node in the place of the fragment that a value was wanted for. -/
def reject (goal : Goal) (error : RenderError) (a : Around) : Step :=
  let node := Node.error error.message
  { events := [.substituted error.message]
    outcome :=
      match goal with
      | .document => .yield node .finished
      | .item element items =>
        .goOn (.next ⟨.spread (element.append node) [] items :: a.frames, a.rest⟩)
      | .content _ => deliver node a
      | .namedValue _ _ _ => deliver node a
      | .property _ _ _ _ => deliver node a }

def quietly (outcome : Outcome) : Step := ⟨[], outcome⟩

/-! ## Using values -/

/-- Enter a tag: hold it against the policy, then look at its name, then at its value. -/
def enter (policy : Policy) (tag : String) (value : Source) (a : Around) : Step :=
  let entered := Event.enteredTag tag a.depth
  let refuse (error : RenderError) : Step :=
    let rejected := reject (.content tag) error a
    { rejected with events := entered :: rejected.events }
  match policy.check tag a.depth with
  | .error violation => refuse (.forbidden violation)
  | .ok () =>
    if Text.isName tag then ⟨[entered], .goOn (.resolving (.content tag) value a)⟩
    else refuse (.invalidTagName tag)

/-- Go on with an element whose attribute has been applied. -/
def resume (element : Element) (entries : List (String × Source)) (a : Around) : Outcome :=
  .goOn (.next ⟨.members element entries :: a.frames, a.rest⟩)

/-- Name of the attribute that is an element's inline style. -/
def styleName : String := "style"

/-- Name of the attribute that is an element's text. -/
def textName : String := "text"

/-- Merge the properties that are left. A property without a name is refused before its value is
looked at. -/
def merge (element : Element) (entries : List (String × Source)) (a : Around) :
    List (String × Source) → Step
  | [] => quietly (resume element entries a)
  | (name, value) :: more =>
    let goal := Goal.property element name more entries
    if name = "" then reject goal (.badAttribute styleName element.tag) a
    else quietly (.goOn (.resolving goal value a))

/-- Apply an attribute. The text and the style of an element have names of their own. -/
def apply (element : Element) (name : String) (entries : List (String × Source)) (a : Around)
    (value : Value) : Step :=
  let refuse := reject (.namedValue element name entries) (.badAttribute name element.tag) a
  if name = textName then
    match value with
    | .text text => quietly (resume (element.setText text) entries a)
    | _ => refuse
  else if name = styleName then
    match value with
    | .text css => quietly (resume { element with style := element.style.setText css } entries a)
    | .mapping properties => merge element entries a properties
    | _ => refuse
  else
    match value with
    | .text text =>
      if Text.isName name then quietly (resume (element.setAttribute name text) entries a)
      else refuse
    | _ => refuse

/-- An attribute is applied at once, or property by property, or it cannot be used. What has been
applied leaves the tag as it is, and the children unless it is the text. -/
theorem apply_cases {P : Step → Prop} {element : Element} {name : String}
    {entries : List (String × Source)} {a : Around} {value : Value}
    (resumed : ∀ changed : Element, changed.tag = element.tag →
      (changed.children = element.children ∨ ∃ text, changed = element.setText text) →
      P (quietly (resume changed entries a)))
    (merging : ∀ props, value = .mapping props → P (merge element entries a props))
    (refused : ∀ error, P (reject (.namedValue element name entries) error a)) :
    P (apply element name entries a value) := by
  unfold apply
  dsimp only
  split
  · split
    · exact resumed _ rfl (.inr ⟨_, rfl⟩)
    · exact refused _
  · split
    · split
      · exact resumed _ rfl (.inl rfl)
      · exact merging _ rfl
      · exact refused _
    · split
      · split
        · exact resumed _ rfl (.inl rfl)
        · exact refused _
      · exact refused _

/-- What a value makes of a style property: set it to a text, or remove it. -/
def propertyValue? : Value → Option (Option String)
  | .text s => some (some s)
  | .number n => some (some n.text)
  | .boolean true => some (some "true")
  | .boolean false => some (some "false")
  | .null => some none
  | _ => none

def setProperty (style : Style) (name : String) : Option String → Style
  | some value => style.setProperty name value
  | none => style.removeProperty name

/-- Use a value for what it was wanted for. -/
def conclude (goal : Goal) (a : Around) (value : Value) : Step :=
  match goal with
  | .document =>
    match value with
    | .text text => quietly (.yield (.text text) .finished)
    | .mapping entries => quietly (.goOn (.next ⟨[], entries⟩))
    | v => reject goal (.unsupportedShape v.kind) a
  | .item element items =>
    match value with
    | .text text =>
      quietly (.goOn (.next ⟨.spread (element.append (.text text)) [] items :: a.frames, a.rest⟩))
    | .mapping entries =>
      quietly (.goOn (.next ⟨.spread element entries items :: a.frames, a.rest⟩))
    | v => reject goal (.unsupportedShape v.kind) a
  | .content tag =>
    match value with
    | .text text => quietly (deliver ((Element.new tag).setText text).toNode a)
    | .list items =>
      quietly (.goOn (.next ⟨.spread (Element.new tag) [] items :: a.frames, a.rest⟩))
    | .mapping entries =>
      quietly (.goOn (.next ⟨.members (Element.new tag) entries :: a.frames, a.rest⟩))
    | v => reject goal (.unsupportedContent tag v.kind) a
  | .namedValue element name entries => apply element name entries a value
  | .property element name more entries =>
    match propertyValue? value with
    | some v => merge { element with style := setProperty element.style name v } entries a more
    | none => reject goal (.badAttribute styleName element.tag) a

/-! ## Steps -/

def takeNext (policy : Policy) (a : Around) : Step :=
  match a.frames with
  | [] =>
    match a.rest with
    | [] => quietly .stop
    | (tag, value) :: rest => enter policy tag value ⟨[], rest⟩
  | .spread element ((tag, value) :: entries) items :: outer =>
    enter policy tag value ⟨.spread element entries items :: outer, a.rest⟩
  | .spread element [] (item :: items) :: outer =>
    quietly (.goOn (.resolving (.item element items) item ⟨outer, a.rest⟩))
  | .spread element [] [] :: outer => quietly (deliver element.toNode ⟨outer, a.rest⟩)
  | .members element ((key, value) :: entries) :: outer =>
    match attributeName? key with
    | some name =>
      quietly (.goOn (.resolving (.namedValue element name entries) value ⟨outer, a.rest⟩))
    | none => enter policy key value ⟨.members element entries :: outer, a.rest⟩
  | .members element [] :: outer => quietly (deliver element.toNode ⟨outer, a.rest⟩)

/-- Poll a pending value that has been started. -/
def await (goal : Goal) (a : Around) : Pending → Step
  | .deferred label 0 outcome => ⟨[.settled label], .goOn (.resolving goal outcome a)⟩
  | .deferred label (yields + 1) outcome =>
    quietly (.suspend (.awaiting goal (.deferred label yields outcome) a))
  | .failing label 0 reason =>
    let rejected := reject goal (.unresolved reason) a
    { rejected with events := .failed label :: rejected.events }
  | .failing label (yields + 1) reason =>
    quietly (.suspend (.awaiting goal (.failing label yields reason) a))
  | .gate id => quietly (.suspend (.awaiting goal (.gate id) a))

def step (policy : Policy) : State → Step
  | .resolving goal (.ready value) a => conclude goal a value
  | .resolving goal (.pending value) a => ⟨[.started value.label], .goOn (.awaiting goal value a)⟩
  | .awaiting goal value a => await goal a value
  | .next a => takeNext policy a
  | .finished => quietly .stop

end JsonMarkup.Render
