import JsonMarkup.Proofs.Render.Admission
import JsonMarkup.Proofs.Render.OnDemand

/-!
# Tags in progress

A tag is in progress from the moment it is entered until its node is handed over to what it stands
in. The tags in progress are those of the open elements and, while its value is wanted, the one that
has been entered last.

**Histories** (`History`). A history is a number of steps, together with what happens in them, each
event with the tags that are in progress when it happens, and the nodes that they yield.

**Main statements.** The tags in progress are a stack (`turn_step`). What has happened in a
rendering is a history of its document, as it has been decided by then (`recorded_course`).
-/

namespace JsonMarkup

/-- The event is that a tag is entered. -/
def Event.entersTag : Event → Bool
  | .enteredTag _ _ => true
  | _ => false

/-- An event, and when it happens. -/
structure Moment where
  event : Event
  /-- The tags that are in progress, the outermost first. -/
  inProgress : List String

namespace Render

/-! ## What is in progress -/

/-- The tags of open elements, the outermost first. -/
def openTags : List Frame → List String
  | [] => []
  | f :: outer => openTags outer ++ [f.element.tag]

/-- The tags in progress while a value is wanted, the outermost first. -/
def Goal.inProgress (a : Around) : Goal → List String
  | .document => []
  | .content tag => openTags a.frames ++ [tag]
  | .item element _ | .namedValue element _ _ | .property element _ _ _ =>
    openTags a.frames ++ [element.tag]

/-- The tags whose rendering is in progress, the outermost first. -/
def State.inProgress : State → List String
  | .resolving goal _ a | .awaiting goal _ a => goal.inProgress a
  | .next a => openTags a.frames
  | .finished => []

theorem length_openTags (fs : List Frame) : (openTags fs).length = fs.length := by
  induction fs with
  | nil => rfl
  | cons f outer ih => rw [openTags, List.length_append, ih]; rfl

theorem openTags_decide (gate : Nat) (d : Decision) (fs : List Frame) :
    openTags (fs.map (·.decide gate d)) = openTags fs := by
  induction fs with
  | nil => rfl
  | cons f outer ih =>
    rw [List.map_cons, openTags, openTags, ih]
    cases f <;> rfl

/-- Decisions do not change what is in progress. -/
theorem inProgress_decide (gate : Nat) (d : Decision) (s : State) :
    (s.decide gate d).inProgress = s.inProgress := by
  have open_eq : ∀ a : Around, openTags (a.decide gate d).frames = openTags a.frames :=
    fun a => openTags_decide gate d a.frames
  have goals : ∀ (goal : Goal) (a : Around),
      (goal.decide gate d).inProgress (a.decide gate d) = goal.inProgress a := by
    intro goal a
    cases goal with
    | document => rfl
    | content tag => exact congrArg (· ++ [tag]) (open_eq a)
    | item element _ => exact congrArg (· ++ [element.tag]) (open_eq a)
    | namedValue element _ _ => exact congrArg (· ++ [element.tag]) (open_eq a)
    | property element _ _ _ => exact congrArg (· ++ [element.tag]) (open_eq a)
  cases s with
  | resolving goal source a => exact goals goal a
  | awaiting goal p a => exact goals goal a
  | next a => exact open_eq a
  | finished => rfl

/-- What a step does to the tags in progress. -/
inductive Turn (before : List String) : List Event → List String → Prop
  /-- The tag that is entered is the innermost one from then on. -/
  | enters {tag : String} : Turn before [.enteredTag tag before.length] (before ++ [tag])
  /-- The tag that is entered is refused at once. -/
  | refuses {tag message : String} :
    Turn before [.enteredTag tag before.length, .substituted message] before
  /-- The innermost tag is handed over. -/
  | leaves {tag : String} {events : List Event} {after : List String} :
    (∀ e ∈ events, e.entersTag = false) → before = after ++ [tag] → Turn before events after
  | stays {events : List Event} : (∀ e ∈ events, e.entersTag = false) → Turn before events before

namespace Turn

variable {before after : List String}

theorem quiet : Turn before [] before := .stays (List.forall_mem_nil _)

theorem left {tag : String} (h : before = after ++ [tag]) : Turn before [] after :=
  .leaves (List.forall_mem_nil _) h

/-- A step with one event that enters no tag. -/
theorem single {e : Event} (h : e.entersTag = false) : Turn before [e] before :=
  .stays (List.forall_mem_singleton.mpr h)

/-- An event in front that enters no tag makes no difference to a step that enters none. -/
theorem after_quiet {events : List Event} {e : Event} (h : Turn before events after)
    (quiet : e.entersTag = false) (others : ∀ e ∈ events, e.entersTag = false) :
    Turn before (e :: events) after := by
  have all : ∀ e' ∈ e :: events, e'.entersTag = false := List.forall_mem_cons.mpr ⟨quiet, others⟩
  cases h with
  | enters => exact absurd (others _ List.mem_cons_self) nofun
  | refuses => exact absurd (others _ List.mem_cons_self) nofun
  | leaves _ split => exact .leaves all split
  | stays _ => exact .stays all

end Turn

def Outcome.inProgress (o : Outcome) : List String := o.state.inProgress

theorem inProgress_deliver (node : Node) (a : Around) :
    (deliver node a).inProgress = openTags a.frames := by
  obtain ⟨frames, rest⟩ := a
  cases frames with
  | nil => rfl
  | cons f outer => cases f <;> rfl

theorem entersTag_substituted (message : String) :
    ∀ e ∈ [Event.substituted message], e.entersTag = false :=
  List.forall_mem_singleton.mpr rfl

variable {policy : Policy}

/-- A fragment that fails leaves the element in which its value was wanted, unless it is an entry of
a list. -/
theorem turn_reject (goal : Goal) (error : RenderError) (a : Around) :
    Turn (goal.inProgress a) (reject goal error a).events
      (reject goal error a).outcome.inProgress := by
  have quiet := entersTag_substituted error.message
  have delivered := (inProgress_deliver (.error error.message) a).symm
  cases goal with
  | document => exact .stays quiet
  | item element items => exact .stays quiet
  | content tag => exact .leaves quiet (congrArg (· ++ [tag]) delivered)
  | namedValue element name entries => exact .leaves quiet (congrArg (· ++ [element.tag]) delivered)
  | property element name more entries =>
    exact .leaves quiet (congrArg (· ++ [element.tag]) delivered)

theorem turn_enter (tag : String) (value : Source) (a : Around) :
    Turn (openTags a.frames) (enter policy tag value a).events
      (enter policy tag value a).outcome.inProgress := by
  have deep : a.depth = (openTags a.frames).length := (length_openTags a.frames).symm
  have refused : ∀ error : RenderError, Turn (openTags a.frames)
      [.enteredTag tag a.depth, .substituted error.message]
      (deliver (.error error.message) a).inProgress := by
    intro error
    rw [inProgress_deliver, deep]
    exact .refuses
  unfold enter
  dsimp only
  split
  · exact refused _
  · split
    · rw [deep]
      exact .enters
    · exact refused _

theorem turn_merge (element : Element) (entries props : List (String × Source)) (a : Around) :
    Turn (openTags a.frames ++ [element.tag]) (merge element entries a props).events
      (merge element entries a props).outcome.inProgress := by
  cases props with
  | nil => exact .quiet
  | cons p more =>
    rw [merge]
    split
    · exact turn_reject (.property element p.1 more entries) _ a
    · exact .quiet

theorem turn_apply (element : Element) (name : String) (entries : List (String × Source))
    (a : Around) (value : Value) :
    Turn (openTags a.frames ++ [element.tag]) (apply element name entries a value).events
      (apply element name entries a value).outcome.inProgress := by
  let P (s : Step) := Turn (openTags a.frames ++ [element.tag]) s.events s.outcome.inProgress
  refine apply_cases (P := P) (fun changed same _ => ?_)
    (fun props _ => turn_merge element entries props a)
    (fun error => turn_reject (.namedValue element name entries) error a)
  show Turn _ [] (openTags a.frames ++ [changed.tag])
  rw [same]
  exact .quiet

theorem turn_conclude (goal : Goal) (a : Around) (value : Value) :
    Turn (goal.inProgress a) (conclude goal a value).events
      (conclude goal a value).outcome.inProgress := by
  have refused := fun error => turn_reject goal error a
  cases goal with
  | document =>
    cases value with
    | text t => exact .quiet
    | mapping entries => exact .quiet
    | _ => exact refused _
  | item element items =>
    cases value with
    | text t => exact .quiet
    | mapping entries => exact .quiet
    | _ => exact refused _
  | content tag =>
    cases value with
    | text t => exact .left (congrArg (· ++ [tag]) (inProgress_deliver _ a).symm)
    | mapping entries => exact .quiet
    | list items => exact .quiet
    | _ => exact refused _
  | namedValue element name entries => exact turn_apply element name entries a value
  | property element name more entries =>
    rw [conclude]
    split
    · rename_i change _
      let merged : Element := { element with style := setProperty element.style name change }
      exact turn_merge merged entries more a
    · exact refused _

theorem turn_takeNext (a : Around) :
    Turn (openTags a.frames) (takeNext policy a).events (takeNext policy a).outcome.inProgress := by
  obtain ⟨frames, rest⟩ := a
  cases frames with
  | nil =>
    cases rest with
    | nil => exact .quiet
    | cons e rest => exact turn_enter e.1 e.2 ⟨[], rest⟩
  | cons f outer =>
    have left := fun element : Element =>
      congrArg (· ++ [element.tag]) (inProgress_deliver element.toNode ⟨outer, rest⟩).symm
    cases f with
    | spread element entries items =>
      cases entries with
      | cons e entries => exact turn_enter e.1 e.2 ⟨.spread element entries items :: outer, rest⟩
      | nil =>
        cases items with
        | cons item items => exact .quiet
        | nil => exact .left (left element)
    | members element entries =>
      cases entries with
      | cons e entries =>
        dsimp only [takeNext]
        split
        · exact .quiet
        · exact turn_enter e.1 e.2 ⟨.members element entries :: outer, rest⟩
      | nil => exact .left (left element)

/-- **The tags in progress are a stack.** A tag comes on top when it is entered, and the topmost is
taken off when its node is handed over. -/
theorem turn_step (s : State) :
    Turn s.inProgress (step policy s).events (step policy s).outcome.inProgress := by
  cases s with
  | resolving goal source a =>
    cases source with
    | ready value => exact turn_conclude goal a value
    | pending p => exact .single rfl
  | awaiting goal p a =>
    cases p with
    | deferred label yields source =>
      cases yields with
      | zero => exact .single rfl
      | succ yields => exact .quiet
    | failing label yields reason =>
      cases yields with
      | zero =>
        exact (turn_reject goal (.unresolved reason) a).after_quiet rfl (entersTag_substituted _)
      | succ yields => exact .quiet
    | gate id => exact .quiet
  | next a => exact turn_takeNext a
  | finished => exact .quiet

/-! ## Histories -/

/-- The nodes that an outcome yields. -/
def Outcome.yielded : Outcome → List Node
  | .yield node _ => [node]
  | _ => []

/-- The nodes that an answer hands over. -/
def Answer.nodes (a : Answer) : List Node := [a].filterMap Answer.node?

/-- What happens in a step, while these tags are in progress. -/
def Step.moments (inProgress : List String) (s : Step) : List Moment :=
  s.events.map (⟨·, inProgress⟩)

/-- Steps lead from one state to another; this happens in them, and they yield these nodes. -/
inductive History (policy : Policy) (s : State) : List Moment → List Node → State → Prop
  | here : History policy s [] [] s
  | step {past : List Moment} {nodes : List Node} {t : State} : History policy s past nodes t →
    History policy s (past ++ (Render.step policy t).moments t.inProgress)
      (nodes ++ (Render.step policy t).outcome.yielded) (Render.step policy t).outcome.state

variable {s t : State} {past : List Moment} {nodes : List Node}

/-- A history of a document is one of the document in which a gate has been decided. -/
theorem History.decide (h : History policy s past nodes t) (gate : Nat) (d : Decision) :
    History policy (s.decide gate d) past nodes (t.decide gate d) := by
  induction h with
  | here => exact .here
  | @step past nodes t _ ih =>
    by_cases blocked : t.blockedOn? = some gate
    · -- Where it waits for the gate, a step neither does anything nor leads anywhere.
      cases t with
      | awaiting goal p a =>
        cases p with
        | gate id =>
          show History policy _ (past ++ []) (nodes ++ []) _
          rw [List.append_nil, List.append_nil]
          exact ih
        | _ => cases blocked
      | _ => cases blocked
    · have next := History.step ih
      have yielded : ∀ o : Outcome, (o.map (State.decide gate d)).yielded = o.yielded := by
        intro o
        cases o <;> rfl
      rw [step_decide policy blocked, inProgress_decide, Step.map, yielded, state_map_decide]
        at next
      exact next

/-- One more step of a poll, with the events so far in the order in which a poll keeps them. -/
theorem History.onward {before done events : List Event} {o : Outcome}
    (h : History policy s past nodes t) (record : past.map Moment.event = before ++ done.reverse)
    (ht : Render.step policy t = ⟨events, o⟩) :
    ∃ past', History policy s past' (nodes ++ o.yielded) o.state ∧
      past'.map Moment.event = before ++ (events.reverse ++ done).reverse := by
  have next := History.step h
  rw [ht] at next
  refine ⟨_, next, ?_⟩
  simp [Step.moments, record, Function.comp_def]

/-- A poll goes on with a history. -/
theorem history_pollFrom {before done : List Event} (h : History policy s past nodes t)
    (record : past.map Moment.event = before ++ done.reverse) :
    ∃ past', History policy s past' (nodes ++ (pollFrom policy done t).answer.nodes)
        (pollFrom policy done t).state ∧
      past'.map Moment.event = before ++ (pollFrom policy done t).events := by
  fun_induction pollFrom policy done t generalizing past with
  | case1 done t events t' ht _ ih =>
    obtain ⟨past', next, record'⟩ := h.onward record ht
    have none : (Outcome.goOn t').yielded = [] := rfl
    rw [none, List.append_nil] at next
    exact ih next record'
  | case2 done t events t' ht => exact h.onward record ht
  | case3 done t events node t' ht => exact h.onward record ht
  | case4 done t events ht => exact h.onward record ht

/-- What has happened in a course is a history of its document, as it has been decided. -/
structure Recorded (policy : Policy) (source : Source) (c : Course) (past : List Moment) : Prop
    where
  same_policy : c.stream.policy = policy
  history : History policy (.start (c.document source)) past c.nodes c.stream.state
  events : past.map Moment.event = c.events

theorem recorded_course (policy : Policy) (source : Source) (moves : List Move) :
    ∃ past, Recorded policy source (course policy source moves) past := by
  refine course_induction (P := fun c => ∃ past, Recorded policy source c past)
    ⟨[], rfl, .here, rfl⟩ ?_
  rintro c ⟨past, same_policy, history, events⟩ m -
  unfold Course.move
  split
  · have record : past.map Moment.event = c.events ++ [].reverse := by
      rw [List.reverse_nil, List.append_nil, events]
    obtain ⟨past', next, record'⟩ := history_pollFrom history record
    have polled : c.stream.poll = pollFrom policy [] c.stream.state := by
      rw [Stream.poll, same_policy]
    rw [← polled] at next record'
    refine ⟨past', same_policy, ?_, record'⟩
    have handed : c.poll.nodes = c.nodes ++ c.stream.poll.answer.nodes := List.filterMap_append
    rw [handed]
    exact next
  · rename_i gate d _
    unfold Course.decide
    split
    · exact ⟨past, same_policy, history, events⟩
    · exact ⟨past, same_policy, history.decide gate _, events⟩

end Render
end JsonMarkup
