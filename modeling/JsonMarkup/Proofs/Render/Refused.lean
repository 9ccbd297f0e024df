import JsonMarkup.Proofs.Render.Course
import JsonMarkup.Proofs.Render.Rewriting
import JsonMarkup.Proofs.Render.Wanted

/-!
# The values of refused tags

A tag that the policy does not let through, or that cannot be written, is refused before anything is
known of its value. What stands there has no influence on anything: neither on the nodes, nor on
when they come, nor on what happens meanwhile.

`Source.blank` is a document with nothing in the place of such values, so two documents that differ
only in them have the same blank.

**Theorem (`course_of_blank_eq`).** Documents with the same blank cannot be told apart by rendering
them, whatever polls and decisions are made.

A rendering and the one of the blank document go in lockstep (`step_blank`), since a step either
takes a value that both have, or refuses the tag.
-/

namespace JsonMarkup

open Render

/-! ## Blank documents -/

/-- What a blank document holds in the place of the value of a refused tag. -/
def nothing : Source := .ready .null

mutual

/-- The document with nothing in the place of the values of refused tags. -/
def Source.blank (policy : Policy) (role : Role) : Source → Source
  | .ready v => .ready (v.blank policy role)
  | .pending p => .pending (p.blank policy role)

/-- The pending value with nothing in the place of the values of refused tags. -/
def Pending.blank (policy : Policy) (role : Role) : Pending → Pending
  | .deferred label yields outcome => .deferred label yields (outcome.blank policy role)
  | .failing label yields reason => .failing label yields reason
  | .gate id => .gate id

/-- The value with nothing in the place of the values of refused tags. -/
def Value.blank (policy : Policy) (role : Role) : Value → Value
  | .mapping entries => .mapping (blankEntries policy role entries)
  | .list items =>
    match role.inList? with
    | some inner => .list (blankItems policy inner items)
    | none => .list items
  | v => v

/-- The entries of a mapping with nothing in the place of the values of refused tags. -/
def blankEntries (policy : Policy) (role : Role) : List (String × Source) → List (String × Source)
  | [] => []
  | (key, s) :: rest =>
    (key,
      match role.tagDepth? key with
      | some depth => if policy.admits key depth then s.blank policy (.content depth) else nothing
      | none => s) :: blankEntries policy role rest

/-- The entries of a list with nothing in the place of the values of refused tags. -/
def blankItems (policy : Policy) (role : Role) : List Source → List Source
  | [] => []
  | s :: rest => s.blank policy role :: blankItems policy role rest

end

/-- The value of a tag, or nothing if the tag is refused. -/
def blankContent (policy : Policy) (depth : Nat) (tag : String) (s : Source) : Source :=
  if policy.admits tag depth then s.blank policy (.content depth) else nothing

/-- No key of a mapping in this role names a tag, and no list is looked into. -/
structure Role.Tagless (role : Role) : Prop where
  keys : ∀ key, role.tagDepth? key = none
  lists : role.inList? = none

theorem Role.Tagless.attribute (name : String) : (Role.attribute name).Tagless :=
  ⟨fun _ => rfl, rfl⟩

theorem Role.Tagless.property : Role.property.Tagless := ⟨fun _ => rfl, rfl⟩

variable {policy : Policy} {role : Role}

theorem blankEntries_of_tagless (h : role.Tagless) (entries : List (String × Source)) :
    blankEntries policy role entries = entries := by
  induction entries with
  | nil => rfl
  | cons e rest ih =>
    rw [blankEntries, ih, h.keys]

theorem Value.blank_of_tagless (h : role.Tagless) (v : Value) : v.blank policy role = v := by
  cases v with
  | mapping entries => exact congrArg Value.mapping (blankEntries_of_tagless h entries)
  | list items => rw [Value.blank, h.lists]
  | _ => rfl

mutual

/-- Where there are no tags, none is refused. -/
theorem Source.blank_of_tagless (h : role.Tagless) : ∀ s : Source, s.blank policy role = s
  | .ready v => congrArg Source.ready (v.blank_of_tagless h)
  | .pending p => congrArg Source.pending (Pending.blank_of_tagless h p)

theorem Pending.blank_of_tagless (h : role.Tagless) : ∀ p : Pending, p.blank policy role = p
  | .deferred label yields s => congrArg (Pending.deferred label yields) (s.blank_of_tagless h)
  | .failing _ _ _ | .gate _ => rfl

end

theorem Pending.label_blank (p : Pending) : (p.blank policy role).label = p.label := by
  cases p <;> rfl

/-! ## Decisions in blank documents -/

mutual

/-- What a decision puts into the values of refused tags does not show. -/
theorem Source.blank_decide (gate : Nat) (d : Decision) {role : Role} : ∀ s : Source,
    (s.decide gate d).blank policy role = ((s.blank policy role).decide gate d).blank policy role
  | .ready v => congrArg Source.ready (Value.blank_decide gate d v)
  | .pending p => congrArg Source.pending (Pending.blank_decide gate d p)

theorem Pending.blank_decide (gate : Nat) (d : Decision) {role : Role} : ∀ p : Pending,
    (p.decide gate d).blank policy role = ((p.blank policy role).decide gate d).blank policy role
  | .deferred label yields s =>
    congrArg (Pending.deferred label yields) (Source.blank_decide gate d s)
  | .failing _ _ _ | .gate _ => rfl

theorem Value.blank_decide (gate : Nat) (d : Decision) {role : Role} : ∀ v : Value,
    (v.decide gate d).blank policy role = ((v.blank policy role).decide gate d).blank policy role
  | .null | .boolean _ | .number _ | .text _ => rfl
  | .mapping entries => congrArg Value.mapping (blankEntries_decide gate d entries)
  | .list items => by
    simp only [Value.decide, Value.blank]
    cases h : role.inList? with
    | some inner =>
      simp only [Value.decide, Value.blank, h]
      rw [blankItems_decide gate d items]
    | none => simp only [Value.decide, Value.blank, h]

theorem blankEntries_decide (gate : Nat) (d : Decision) {role : Role} :
    ∀ entries : List (String × Source), blankEntries policy role (decideEntries gate d entries) =
      blankEntries policy role (decideEntries gate d (blankEntries policy role entries))
  | [] => rfl
  | (key, s) :: rest => by
    rw [decideEntries, blankEntries, blankEntries, decideEntries, blankEntries,
      ← blankEntries_decide gate d rest]
    cases role.tagDepth? key with
    | none => rfl
    | some depth =>
      dsimp only
      split
      · rw [← Source.blank_decide gate d s]
      · rfl

theorem blankItems_decide (gate : Nat) (d : Decision) {role : Role} : ∀ items : List Source,
    blankItems policy role (decideItems gate d items) =
      blankItems policy role (decideItems gate d (blankItems policy role items))
  | [] => rfl
  | s :: rest => by
    rw [decideItems, blankItems, blankItems, decideItems, blankItems,
      ← blankItems_decide gate d rest, ← Source.blank_decide gate d s]

end

namespace Render

/-! ## Blank states -/

/-- An open element that stands within `depth` others, and what is still to come in it. -/
def Frame.blank (policy : Policy) (depth : Nat) : Frame → Frame
  | .spread element entries items =>
    .spread element (blankEntries policy (.fragment (depth + 1)) entries)
      (blankItems policy (.fragment (depth + 1)) items)
  | .members element entries => .members element (blankEntries policy (.content depth) entries)

def blankFrames (policy : Policy) : List Frame → List Frame
  | [] => []
  | f :: outer => f.blank policy outer.length :: blankFrames policy outer

theorem length_blankFrames (frames : List Frame) :
    (blankFrames policy frames).length = frames.length := by
  induction frames with
  | nil => rfl
  | cons f outer ih => rw [blankFrames, List.length_cons, List.length_cons, ih]

def Around.blank (policy : Policy) (a : Around) : Around :=
  ⟨blankFrames policy a.frames, blankEntries policy (.fragment 0) a.rest⟩

theorem Around.depth_blank (a : Around) : (a.blank policy).depth = a.depth :=
  length_blankFrames a.frames

/-- What a value is wanted for within `depth` elements, and what is still to come after it. -/
def Goal.blank (policy : Policy) (depth : Nat) : Goal → Goal
  | .document => .document
  | .item element items => .item element (blankItems policy (.fragment (depth + 1)) items)
  | .content tag => .content tag
  | .namedValue element name entries =>
    .namedValue element name (blankEntries policy (.content depth) entries)
  | .property element name more entries =>
    .property element name more (blankEntries policy (.content depth) entries)

theorem Goal.role_blank (depth : Nat) (goal : Goal) :
    (goal.blank policy depth).role depth = goal.role depth := by
  cases goal <;> rfl

/-- What is left to do with nothing in the place of the values of refused tags. -/
def State.blank (policy : Policy) : State → State
  | .resolving goal s a =>
    .resolving (goal.blank policy a.depth) (s.blank policy (goal.role a.depth)) (a.blank policy)
  | .awaiting goal p a =>
    .awaiting (goal.blank policy a.depth) (p.blank policy (goal.role a.depth)) (a.blank policy)
  | .next a => .next (a.blank policy)
  | .finished => .finished

/-! ## Steps in lockstep -/

variable (policy)

theorem deliver_blank (node : Node) (a : Around) :
    deliver node (a.blank policy) = (deliver node a).map (State.blank policy) := by
  obtain ⟨frames, rest⟩ := a
  cases frames with
  | nil => rfl
  | cons f outer => cases f <;> rfl

theorem reject_blank (goal : Goal) (error : RenderError) (a : Around) :
    reject (goal.blank policy a.depth) error (a.blank policy) =
      (reject goal error a).map (State.blank policy) := by
  have delivered := congrArg (Render.Step.mk [.substituted error.message])
    (deliver_blank policy (.error error.message) a)
  cases goal with
  | document => rfl
  | item element items => rfl
  | content tag => exact delivered
  | namedValue element name entries => exact delivered
  | property element name more entries => exact delivered

/-- A tag is entered alike, whatever its value is if it is refused. -/
theorem enter_blank (tag : String) (value : Source) (a : Around) :
    enter policy tag (blankContent policy a.depth tag value) (a.blank policy) =
      (enter policy tag value a).map (State.blank policy) := by
  have refused := fun error => congrArg
    (fun s : Render.Step => Render.Step.mk (.enteredTag tag a.depth :: s.events) s.outcome)
    (reject_blank policy (.content tag) error a)
  unfold enter
  rw [Around.depth_blank]
  dsimp only
  cases checked : policy.check tag a.depth with
  | error violation => exact refused _
  | ok _ =>
    dsimp only
    split
    · rename_i named
      have admits : policy.admits tag a.depth = true := by rw [Policy.admits, checked, named]
      rw [blankContent, if_pos admits]
      rfl
    · exact refused _

theorem merge_blank (element : Element) (entries props : List (String × Source)) (a : Around) :
    merge element (blankEntries policy (.content a.depth) entries) (a.blank policy) props =
      (merge element entries a props).map (State.blank policy) := by
  cases props with
  | nil => rfl
  | cons p more =>
    obtain ⟨name, value⟩ := p
    simp only [merge]
    split
    · exact reject_blank policy (.property element name more entries) _ a
    · have same : value.blank policy .property = value := value.blank_of_tagless .property
      show quietly (.goOn (.resolving _ value _)) = quietly (.goOn (.resolving _ _ _))
      rw [Goal.role, same]
      rfl

theorem apply_blank (element : Element) (name : String) (entries : List (String × Source))
    (a : Around) (value : Value) :
    apply element name (blankEntries policy (.content a.depth) entries) (a.blank policy) value =
      (apply element name entries a value).map (State.blank policy) := by
  have refused := reject_blank policy (.namedValue element name entries)
    (.badAttribute name element.tag) a
  unfold apply
  dsimp only
  split
  · cases value with
    | text text => rfl
    | _ => exact refused
  · split
    · cases value with
      | text css => rfl
      | mapping properties => exact merge_blank policy element entries properties a
      | _ => exact refused
    · cases value with
      | text text =>
        dsimp only
        split
        · rfl
        · exact refused
      | _ => exact refused

/-- A value is used alike, whatever the values of refused tags in it are. -/
theorem conclude_blank (goal : Goal) (a : Around) (value : Value) :
    conclude (goal.blank policy a.depth) (a.blank policy)
        (value.blank policy (goal.role a.depth)) =
      (conclude goal a value).map (State.blank policy) := by
  have refused := fun error => reject_blank policy goal error a
  cases goal with
  | document =>
    cases value with
    | text text => rfl
    | mapping entries => rfl
    | _ => exact refused _
  | item element items =>
    cases value with
    | text text => rfl
    | mapping entries => rfl
    | _ => exact refused _
  | content tag =>
    cases value with
    | text text => exact congrArg quietly (deliver_blank policy _ a)
    | list items => rfl
    | mapping entries => rfl
    | _ => exact refused _
  | namedValue element name entries =>
    rw [Goal.role, Value.blank_of_tagless (.attribute name)]
    exact apply_blank policy element name entries a value
  | property element name more entries =>
    rw [Goal.role, Value.blank_of_tagless .property]
    simp only [conclude, Goal.blank]
    split
    · exact merge_blank policy _ entries more a
    · exact refused _

theorem takeNext_blank (a : Around) :
    takeNext policy (a.blank policy) = (takeNext policy a).map (State.blank policy) := by
  obtain ⟨frames, rest⟩ := a
  cases frames with
  | nil =>
    cases rest with
    | nil => rfl
    | cons e rest => exact enter_blank policy e.1 e.2 ⟨[], rest⟩
  | cons f outer =>
    cases f with
    | spread element entries items =>
      cases entries with
      | cons e entries =>
        exact enter_blank policy e.1 e.2 ⟨.spread element entries items :: outer, rest⟩
      | nil =>
        cases items with
        | cons item items => rfl
        | nil => exact congrArg quietly (deliver_blank policy element.toNode ⟨outer, rest⟩)
    | members element entries =>
      cases entries with
      | cons e entries =>
        obtain ⟨key, value⟩ := e
        simp only [takeNext, Around.blank, blankFrames, Frame.blank, blankEntries, Role.tagDepth?]
        cases hkey : attributeName? key with
        | some name =>
          have same : value.blank policy (.attribute name) = value :=
            value.blank_of_tagless (.attribute name)
          show quietly (.goOn (.resolving _ value _)) = quietly (.goOn (.resolving _ _ _))
          rw [Goal.role, same]
          rfl
        | none => exact enter_blank policy key value ⟨.members element entries :: outer, rest⟩
      | nil => exact congrArg quietly (deliver_blank policy element.toNode ⟨outer, rest⟩)

theorem await_blank (goal : Goal) (a : Around) (p : Pending) :
    await (goal.blank policy a.depth) (a.blank policy) (p.blank policy (goal.role a.depth)) =
      (await goal a p).map (State.blank policy) := by
  cases p with
  | deferred label yields s => cases yields <;> rfl
  | failing label yields reason =>
    cases yields with
    | zero =>
      exact congrArg
        (fun s : Render.Step => Render.Step.mk (.failed label :: s.events) s.outcome)
        (reject_blank policy goal (.unresolved reason) a)
    | succ yields => rfl
  | gate id => rfl

/-- **Lockstep.** A step does not depend on the values of refused tags. -/
theorem step_blank (s : State) :
    step policy (s.blank policy) = (step policy s).map (State.blank policy) := by
  cases s with
  | resolving goal source a =>
    cases source with
    | ready v => exact conclude_blank policy goal a v
    | pending p =>
      show Render.Step.mk [.started (p.blank policy _).label] _ = _
      rw [Pending.label_blank]
      rfl
  | awaiting goal p a => exact await_blank policy goal a p
  | next a => exact takeNext_blank policy a
  | finished => rfl

/-! ## Polls in lockstep -/

/-- What comes of a poll with nothing in the place of the values of refused tags. -/
def Polled.blank (p : Polled) : Polled := ⟨p.answer, p.events, p.state.blank policy⟩

theorem pollFrom_blank (done : List Event) (s : State) :
    pollFrom policy done (s.blank policy) = (pollFrom policy done s).blank policy := by
  have lockstep : ∀ {s : State} {events : List Event} {o : Outcome},
      step policy s = ⟨events, o⟩ →
        step policy (s.blank policy) = ⟨events, o.map (State.blank policy)⟩ :=
    fun h => by rw [step_blank, h]; rfl
  fun_induction pollFrom policy done s with
  | case1 done s events s' h _ ih =>
    rw [pollFrom_eq, lockstep h]
    exact ih
  | case2 done s events s' h =>
    rw [pollFrom_eq, lockstep h]
    rfl
  | case3 done s events node s' h =>
    rw [pollFrom_eq, lockstep h]
    rfl
  | case4 done s events h =>
    rw [pollFrom_eq, lockstep h]
    rfl

/-! ## Decisions in blank states -/

theorem blankFrames_decide (gate : Nat) (d : Decision) (frames : List Frame) :
    blankFrames policy (frames.map (·.decide gate d)) =
      blankFrames policy ((blankFrames policy frames).map (·.decide gate d)) := by
  induction frames with
  | nil => rfl
  | cons f outer ih =>
    simp only [blankFrames, List.map_cons, List.length_map, length_blankFrames]
    rw [← ih]
    cases f with
    | spread element entries items =>
      simp only [Frame.decide, Frame.blank]
      rw [← blankEntries_decide, ← blankItems_decide]
    | members element entries =>
      simp only [Frame.decide, Frame.blank]
      rw [← blankEntries_decide]

theorem Around.blank_decide (gate : Nat) (d : Decision) (a : Around) :
    (a.decide gate d).blank policy = ((a.blank policy).decide gate d).blank policy := by
  simp only [Around.decide, Around.blank]
  rw [← blankFrames_decide, ← blankEntries_decide]

theorem Around.depth_decide (gate : Nat) (d : Decision) (a : Around) :
    (a.decide gate d).depth = a.depth := List.length_map _

theorem Goal.role_decide (gate : Nat) (d : Decision) (depth : Nat) (goal : Goal) :
    (goal.decide gate d).role depth = goal.role depth := by
  cases goal <;> rfl

theorem Goal.blank_decide (gate : Nat) (d : Decision) (depth : Nat) (goal : Goal) :
    (goal.decide gate d).blank policy depth =
      ((goal.blank policy depth).decide gate d).blank policy depth := by
  cases goal with
  | document => rfl
  | item element items =>
    simp only [Goal.decide, Goal.blank]
    rw [← blankItems_decide]
  | content tag => rfl
  | namedValue element name entries =>
    simp only [Goal.decide, Goal.blank]
    rw [← blankEntries_decide]
  | property element name more entries =>
    simp only [Goal.decide, Goal.blank]
    rw [← blankEntries_decide]

/-- What a decision puts into the values of refused tags does not show in a state. -/
theorem State.blank_decide (gate : Nat) (d : Decision) (s : State) :
    (s.decide gate d).blank policy = ((s.blank policy).decide gate d).blank policy := by
  cases s with
  | resolving goal source a =>
    simp only [State.decide, State.blank, Around.depth_decide, Around.depth_blank,
      Goal.role_decide, Goal.role_blank]
    rw [← Around.blank_decide, ← Goal.blank_decide, ← Source.blank_decide]
  | awaiting goal p a =>
    simp only [State.decide, State.blank, Around.depth_decide, Around.depth_blank,
      Goal.role_decide, Goal.role_blank]
    rw [← Around.blank_decide, ← Goal.blank_decide, ← Pending.blank_decide]
  | next a =>
    simp only [State.decide, State.blank]
    rw [← Around.blank_decide]
  | finished => rfl

/-! ## The theorem -/

/-- Two courses that have shown the same, with the same left to do but for the values of refused
tags. -/
structure ShowSame (c c' : Course) : Prop where
  same_policy : c.stream.policy = policy ∧ c'.stream.policy = policy
  state : c.stream.state.blank policy = c'.stream.state.blank policy
  answers : c.answers = c'.answers
  events : c.events = c'.events
  decided : c.decided = c'.decided

variable {policy} {c c' : Course}

theorem ShowSame.poll (h : ShowSame policy c c') : ShowSame policy c.poll c'.poll := by
  have same : c.stream.poll.blank policy = c'.stream.poll.blank policy := by
    rw [Stream.poll, Stream.poll, h.same_policy.1, h.same_policy.2, ← pollFrom_blank,
      ← pollFrom_blank, h.state]
  obtain ⟨answer, events, state⟩ := Polled.mk.inj same
  exact {
    same_policy := h.same_policy
    state := state
    answers := by
      show c.answers ++ _ = c'.answers ++ _
      rw [h.answers, answer]
    events := by
      show c.events ++ _ = c'.events ++ _
      rw [h.events, events]
    decided := h.decided }

theorem ShowSame.decide (h : ShowSame policy c c') (gate : Nat) (d : Decision) :
    ShowSame policy (c.decide gate d) (c'.decide gate d) := by
  unfold Course.decide
  rw [h.decided]
  split
  · exact h
  · exact {
      same_policy := h.same_policy
      state := by
        show (State.decide _ _ _).blank policy = (State.decide _ _ _).blank policy
        rw [State.blank_decide, h.state, ← State.blank_decide]
      answers := h.answers
      events := h.events
      decided := rfl }

theorem ShowSame.move (h : ShowSame policy c c') (m : Move) :
    ShowSame policy (c.move m) (c'.move m) := by
  unfold Course.move
  split
  · exact h.poll
  · exact h.decide _ _

theorem showSame_course {s t : Source}
    (h : s.blank policy (.fragment 0) = t.blank policy (.fragment 0)) (moves : List Move) :
    ShowSame policy (course policy s moves) (course policy t moves) := by
  induction moves using List.reverseRecOn with
  | nil =>
    refine ⟨⟨rfl, rfl⟩, ?_, rfl, rfl, rfl⟩
    show State.resolving _ (s.blank policy (.fragment 0)) _ = State.resolving _ _ _
    rw [h]
    rfl
  | append_singleton moves m ih =>
    rw [course_concat, course_concat]
    exact ih.move m

/-- **The values of refused tags do not matter.** Two documents that are the same but for the values
of tags that the policy refuses at their depth, or that cannot be written, give the same answer to
every poll, the same log and the same trace, whatever is done to their renderings. -/
theorem course_of_blank_eq (policy : Policy) (s t : Source)
    (h : s.blank policy (.fragment 0) = t.blank policy (.fragment 0)) (moves : List Move) :
    (course policy s moves).answers = (course policy t moves).answers ∧
      logLines (course policy s moves).events = logLines (course policy t moves).events ∧
      traceOf policy.maxDepth (course policy s moves).events =
        traceOf policy.maxDepth (course policy t moves).events := by
  have same := showSame_course h moves
  exact ⟨same.answers, congrArg logLines same.events, congrArg (traceOf _) same.events⟩

/-- A page with an excluded tag, a tag that lies too deep and one that cannot be written. -/
def guardedPage (script deep unwritable : Source) : Source :=
  .mapping [("div", .mapping [("$id", .text "page"), ("script", script),
    ("ul", .list [.mapping [("li", deep)]])]), ("on click", unwritable)]

def guard : Policy := (Policy.standard.excluding ["script"]).limitedTo 1

/-- A gate that stays closed, a failure and a list where nobody looks make no difference. -/
theorem course_guardedPage :
    let s := guardedPage (.pending (.gate 0)) (.pending (.failing (some "x") 2 "lost")) (.list [])
    let t := guardedPage (.text "run()") (.mapping [("b", .text "deep")]) (.pending (.gate 1))
    let moves := [.poll, .cancel 1, .poll, .poll]
    s.blank guard (.fragment 0) = t.blank guard (.fragment 0) ∧
      (course guard s moves).answers = (course guard t moves).answers ∧
      logLines (course guard s moves).events = logLines (course guard t moves).events ∧
      traceOf guard.maxDepth (course guard s moves).events =
        traceOf guard.maxDepth (course guard t moves).events := by
  intro s t moves
  have same : s.blank guard (.fragment 0) = t.blank guard (.fragment 0) := by rfl
  exact ⟨same, course_of_blank_eq guard s t same moves⟩

end Render

end JsonMarkup
