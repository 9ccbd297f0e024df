import JsonMarkup.Proofs.Render.Warnings

/-!
# The trace accounts for errors and tags

The messages in the nodes of a rendering are among its warnings, in order. Some may be missing:
what stands in an element is thrown away by a text or a faulty attribute that comes after it.

**Attributes in front** (`Tidy`). Where in every mapping that is the value of a tag the attributes
stand in front of the children, an element has no error nodes in it as long as an attribute is still
to come. `State.Tidy` says this of a state and is kept by every step (`tidy_step`), so nothing is
thrown away.

**Theorem (`trace_accounts`).** The messages of the error nodes are a subsequence of those of the
warnings, and the same in the end if attributes stand in front. Each tag that is reached is entered
once, in document order, while exactly the tags that it lies in are in progress.
-/

namespace JsonMarkup

/-- Attributes stand in front of children. -/
def AttributesFirst (entries : List (String × Source)) : Prop :=
  entries.Pairwise fun e f => Render.attributeName? e.1 = none → Render.attributeName? f.1 = none

/-- None of the entries is an attribute. -/
def ChildrenOnly (entries : List (String × Source)) : Prop :=
  ∀ e ∈ entries, Render.attributeName? e.1 = none

theorem ChildrenOnly.attributesFirst {entries : List (String × Source)} (h : ChildrenOnly entries) :
    AttributesFirst entries :=
  List.pairwise_iff_forall_sublist.mpr fun sub _ => h _ (sub.subset (by simp))

/-- The entries are those of a mapping that is the value of a tag in a position. -/
inductive TagMapping (policy : Policy) (entries : List (String × Source)) : Role → Source → Prop
  | here {depth : Nat} : TagMapping policy entries (.content depth) (.ready (.mapping entries))
  | settled {role : Role} {label : Option String} {yields : Nat} {s : Source} :
    TagMapping policy entries role s →
    TagMapping policy entries role (.pending (.deferred label yields s))
  | entry {role inner : Role} {around : List (String × Source)} {e : String × Source} :
    e ∈ around → role.under? policy e.1 = some inner → TagMapping policy entries inner e.2 →
    TagMapping policy entries role (.ready (.mapping around))
  | item {role inner : Role} {items : List Source} {s : Source} :
    s ∈ items → role.inList? = some inner → TagMapping policy entries inner s →
    TagMapping policy entries role (.ready (.list items))

/-- In every mapping in a position that is the value of a tag, attributes stand in front. -/
def Tidy (policy : Policy) (role : Role) (s : Source) : Prop :=
  ∀ entries, TagMapping policy entries role s → AttributesFirst entries

/-- What is looked into in a mapping is tidy. -/
def TidyEntries (policy : Policy) (role : Role) (entries : List (String × Source)) : Prop :=
  ∀ e ∈ entries, ∀ inner, role.under? policy e.1 = some inner → Tidy policy inner e.2

def TidyItems (policy : Policy) (role : Role) (items : List Source) : Prop :=
  ∀ s ∈ items, Tidy policy role s

variable {policy : Policy} {role : Role}

theorem tidy_deferred_iff {label : Option String} {yields : Nat} {s : Source} :
    Tidy policy role (.pending (.deferred label yields s)) ↔ Tidy policy role s := by
  refine ⟨fun h entries inside => h entries (.settled inside), fun h entries inside => ?_⟩
  cases inside with
  | settled inside => exact h entries inside

theorem tidy_failing {label : Option String} {yields : Nat} {reason : String} :
    Tidy policy role (.pending (.failing label yields reason)) := fun _ inside => by cases inside

theorem Tidy.entries {entries : List (String × Source)}
    (h : Tidy policy role (.ready (.mapping entries))) : TidyEntries policy role entries :=
  fun _ mem _ under mapping inside => h mapping (.entry mem under inside)

theorem Tidy.items {inner : Role} {items : List Source}
    (h : Tidy policy role (.ready (.list items))) (inside : role.inList? = some inner) :
    TidyItems policy inner items :=
  fun _ mem mapping within => h mapping (.item mem inside within)

/-- Tags have no values in attributes and properties of styles. -/
theorem role_of_tagMapping {entries : List (String × Source)} {s : Source}
    (h : TagMapping policy entries role s) :
    ∃ depth, role = .fragment depth ∨ role = .content depth := by
  induction h with
  | here => exact ⟨_, .inr rfl⟩
  | settled _ ih => exact ih
  | @entry role inner around e mem under _ ih =>
    cases role with
    | fragment depth => exact ⟨depth, .inl rfl⟩
    | content depth => exact ⟨depth, .inr rfl⟩
    | property => cases under
    | _ name =>
      rw [Role.under?] at under
      split at under
      · cases under
        obtain ⟨_, h | h⟩ := ih <;> cases h
      · cases under
  | @item role inner items s mem inside _ _ =>
    cases role with
    | content depth => exact ⟨depth, .inr rfl⟩
    | _ => cases inside

theorem tidy_property (s : Source) : Tidy policy .property s := by
  intro entries inside
  obtain ⟨_, h | h⟩ := role_of_tagMapping inside <;> cases h

namespace Render

/-! ## Tidy states -/

/-- What is still to come in an element whose attributes come before its children, and in which a
child is being rendered: no attributes. -/
def FramesTidy (policy : Policy) : List Frame → Prop
  | [] => True
  | .spread _ entries items :: outer =>
    TidyEntries policy (.fragment (outer.length + 1)) entries ∧
      TidyItems policy (.fragment (outer.length + 1)) items ∧ FramesTidy policy outer
  | .members _ entries :: outer =>
    TidyEntries policy (.content outer.length) entries ∧ ChildrenOnly entries ∧
      FramesTidy policy outer

/-- What is still to come around a tag that is being rendered is tidy. -/
structure Around.Tidy (policy : Policy) (a : Around) : Prop where
  frames : FramesTidy policy a.frames
  rest : TidyEntries policy (.fragment 0) a.rest

/-- What is still to come in an element is tidy, and it has no error nodes in it as long as that is
not only children. -/
structure Resumes (policy : Policy) (depth : Nat) (element : Element)
    (entries : List (String × Source)) : Prop where
  inside : TidyEntries policy (.content depth) entries
  inFront : AttributesFirst entries
  clean : ChildrenOnly entries ∨ element.messages = []

/-- What is still to come after a wanted value is tidy. -/
def Goal.Tidy (policy : Policy) (a : Around) : Goal → Prop
  | .document => True
  | .item _ items => TidyItems policy (.fragment (a.depth + 1)) items ∧ a.Tidy policy
  | .content _ => a.Tidy policy
  | .namedValue element _ entries | .property element _ _ entries =>
    TidyEntries policy (.content a.depth) entries ∧ AttributesFirst entries ∧
      element.messages = [] ∧ a.Tidy policy

/-- What is still to come is tidy, and no error node stands where it might be thrown away. -/
def State.Tidy (policy : Policy) : State → Prop
  | .resolving goal s a => goal.Tidy policy a ∧ JsonMarkup.Tidy policy (goal.role a.depth) s
  | .awaiting goal p a =>
    goal.Tidy policy a ∧ JsonMarkup.Tidy policy (goal.role a.depth) (.pending p)
  | .next ⟨.members element entries :: outer, rest⟩ =>
    Resumes policy outer.length element entries ∧ Around.Tidy policy ⟨outer, rest⟩
  | .next a => a.Tidy policy
  | .finished => True

theorem State.Tidy.clean {s : State} (h : s.Tidy policy) : s.Clean := by
  have goals : ∀ (goal : Goal) (a : Around), goal.Tidy policy a → goal.Clean := by
    intro goal a tidy
    cases goal with
    | namedValue element name entries => exact tidy.2.2.1
    | property element name more entries => exact tidy.2.2.1
    | _ => trivial
  cases s with
  | resolving goal source a => exact goals goal a h.1
  | awaiting goal p a => exact goals goal a h.1
  | next a => trivial
  | finished => trivial

variable {a : Around}

/-! ## Steps keep tidiness -/

theorem tidy_deliver (node : Node) (h : a.Tidy policy) : (deliver node a).state.Tidy policy := by
  obtain ⟨frames, rest⟩ := a
  cases frames with
  | nil => exact h
  | cons f outer =>
    obtain ⟨hf, hrest⟩ := h
    cases f with
    | spread element entries items => exact ⟨hf, hrest⟩
    | members element entries =>
      obtain ⟨inside, children, houter⟩ := hf
      exact ⟨⟨inside, children.attributesFirst, .inl children⟩, houter, hrest⟩

theorem tidy_reject {goal : Goal} (error : RenderError) (h : goal.Tidy policy a) :
    (reject goal error a).outcome.state.Tidy policy := by
  cases goal with
  | document => trivial
  | item element items =>
    obtain ⟨hitems, frames, rest⟩ := h
    exact ⟨⟨nofun, hitems, frames⟩, rest⟩
  | content tag => exact tidy_deliver _ h
  | namedValue element name entries => exact tidy_deliver _ h.2.2.2
  | property element name more entries => exact tidy_deliver _ h.2.2.2

theorem tidy_enter {tag : String} {value : Source} (h : a.Tidy policy)
    (inside : policy.admits tag a.depth = true →
      JsonMarkup.Tidy policy (.content a.depth) value) :
    (enter policy tag value a).outcome.state.Tidy policy := by
  have refused : ∀ error, (deliver (.error error) a).state.Tidy policy :=
    fun error => tidy_deliver _ h
  unfold enter
  dsimp only
  cases checked : policy.check tag a.depth with
  | error violation => exact refused _
  | ok _ =>
    cases named : Text.isName tag with
    | true => exact ⟨h, inside (by rw [Policy.admits, checked, named])⟩
    | false => exact refused _

theorem tidy_resume {element : Element} {entries : List (String × Source)}
    (inside : TidyEntries policy (.content a.depth) entries) (inFront : AttributesFirst entries)
    (clean : element.messages = []) (h : a.Tidy policy) :
    (resume element entries a).state.Tidy policy :=
  ⟨⟨inside, inFront, .inr clean⟩, h⟩

theorem tidy_merge {element : Element} {entries : List (String × Source)}
    (props : List (String × Source)) (inside : TidyEntries policy (.content a.depth) entries)
    (inFront : AttributesFirst entries) (clean : element.messages = []) (h : a.Tidy policy) :
    (merge element entries a props).outcome.state.Tidy policy := by
  cases props with
  | nil => exact tidy_resume inside inFront clean h
  | cons p more =>
    rw [merge]
    split
    · exact tidy_deliver _ h
    · exact ⟨⟨inside, inFront, clean, h⟩, tidy_property p.2⟩

theorem tidy_apply {element : Element} {name : String} {entries : List (String × Source)}
    {value : Value} (inside : TidyEntries policy (.content a.depth) entries)
    (inFront : AttributesFirst entries) (clean : element.messages = []) (h : a.Tidy policy) :
    (apply element name entries a value).outcome.state.Tidy policy := by
  refine apply_cases (P := fun s => s.outcome.state.Tidy policy) (fun changed _ kept => ?_)
    (fun props _ => tidy_merge props inside inFront clean h) (fun _ => tidy_deliver _ h)
  refine tidy_resume inside inFront ?_ h
  rcases kept with same | ⟨text, rfl⟩
  · rw [Element.messages, same]
    exact clean
  · exact Element.messages_setText element text

theorem tidy_conclude {goal : Goal} {value : Value} (h : goal.Tidy policy a)
    (hv : JsonMarkup.Tidy policy (goal.role a.depth) (.ready value)) :
    (conclude goal a value).outcome.state.Tidy policy := by
  have refused := fun error => tidy_reject (a := a) error h
  cases goal with
  | document =>
    cases value with
    | text t => trivial
    | mapping entries => exact ⟨trivial, hv.entries⟩
    | _ => exact refused _
  | item element items =>
    obtain ⟨hitems, frames, rest⟩ := h
    cases value with
    | text t => exact ⟨⟨nofun, hitems, frames⟩, rest⟩
    | mapping entries => exact ⟨⟨hv.entries, hitems, frames⟩, rest⟩
    | _ => exact refused _
  | content tag =>
    cases value with
    | text t => exact tidy_deliver _ h
    | mapping entries => exact tidy_resume hv.entries (hv entries .here) rfl h
    | list items => exact ⟨⟨nofun, hv.items rfl, h.frames⟩, h.rest⟩
    | _ => exact refused _
  | namedValue element name entries =>
    obtain ⟨inside, inFront, clean, ha⟩ := h
    exact tidy_apply inside inFront clean ha
  | property element name more entries =>
    obtain ⟨inside, inFront, clean, ha⟩ := h
    rw [conclude]
    split
    · exact tidy_merge more inside inFront clean ha
    · exact refused _

theorem tidy_takeNext (h : (State.next a).Tidy policy) :
    (takeNext policy a).outcome.state.Tidy policy := by
  obtain ⟨frames, rest⟩ := a
  cases frames with
  | nil =>
    obtain ⟨-, hrest⟩ := h
    cases rest with
    | nil => trivial
    | cons e rest =>
      obtain ⟨he, hrest⟩ := List.forall_mem_cons.mp hrest
      exact tidy_enter ⟨trivial, hrest⟩ fun admits => he _ (if_pos admits)
  | cons f outer =>
    cases f with
    | spread element entries items =>
      obtain ⟨⟨hentries, hitems, houter⟩, hrest⟩ := h
      cases entries with
      | cons e entries =>
        obtain ⟨he, hentries⟩ := List.forall_mem_cons.mp hentries
        exact tidy_enter ⟨⟨hentries, hitems, houter⟩, hrest⟩ fun admits => he _ (if_pos admits)
      | nil =>
        cases items with
        | cons item items =>
          obtain ⟨hitem, hitems⟩ := List.forall_mem_cons.mp hitems
          exact ⟨⟨hitems, houter, hrest⟩, hitem⟩
        | nil => exact tidy_deliver _ ⟨houter, hrest⟩
    | members element entries =>
      obtain ⟨⟨inside, inFront, clean⟩, ha⟩ := h
      cases entries with
      | nil => exact tidy_deliver _ ha
      | cons e entries =>
        obtain ⟨key, value⟩ := e
        obtain ⟨he, hentries⟩ := List.forall_mem_cons.mp inside
        obtain ⟨behind, inFront⟩ := List.pairwise_cons.mp inFront
        dsimp only [takeNext]
        cases hkey : attributeName? key with
        | some name =>
          have empty : element.messages = [] := by
            refine clean.resolve_left fun children => ?_
            have isChild := children (key, value) List.mem_cons_self
            rw [hkey] at isChild
            cases isChild
          refine ⟨⟨hentries, inFront, empty, ha⟩, he _ ?_⟩
          rw [Role.under?, hkey]
          rfl
        | none =>
          refine tidy_enter ⟨⟨hentries, fun f hf => behind f hf hkey, ha.frames⟩, ha.rest⟩ ?_
          intro admits
          refine he _ ?_
          rw [Role.under?, hkey]
          exact if_pos admits

/-- **A step keeps a state tidy.** -/
theorem tidy_step {s : State} (h : s.Tidy policy) : (step policy s).outcome.state.Tidy policy := by
  cases s with
  | resolving goal source a =>
    cases source with
    | ready value => exact tidy_conclude h.1 h.2
    | pending p => exact h
  | awaiting goal p a =>
    obtain ⟨hgoal, hp⟩ := h
    cases p with
    | deferred label yields source =>
      cases yields with
      | zero => exact ⟨hgoal, tidy_deferred_iff.mp hp⟩
      | succ yields => exact ⟨hgoal, tidy_deferred_iff.mpr (tidy_deferred_iff.mp hp)⟩
    | failing label yields reason =>
      cases yields with
      | zero => exact tidy_reject _ hgoal
      | succ yields => exact ⟨hgoal, tidy_failing⟩
    | gate id => exact ⟨hgoal, hp⟩
  | next a => exact tidy_takeNext h
  | finished => trivial

/-! ## Histories -/

variable {t : State} {past : List Moment} {ns : List Node}

/-- The warnings in a history. -/
def warned (past : List Moment) : List String := warnings (past.map Moment.event)

theorem warned_step (past : List Moment) (inProgress : List String) (s : Step) :
    warned (past ++ s.moments inProgress) = warned past ++ warnings s.events := by
  rw [warned, List.map_append, warnings_append]
  simp [Step.moments, Function.comp_def, warned]

/-- The messages of a history after one more step. -/
theorem messages_step (ns : List Node) (o : Outcome) :
    Node.messagesAll (ns ++ o.yielded) ++ o.state.messages =
      Node.messagesAll ns ++ o.messages := by
  rw [Node.messagesAll_append, List.append_assoc]
  rfl

/-- The messages in what a history has yielded, and in what it has not yielded yet, are among its
warnings. -/
theorem History.accounts {document : Source} (h : History policy (.start document) past ns t) :
    (Node.messagesAll ns ++ t.messages).Sublist (warned past) := by
  induction h with
  | here => exact List.Sublist.refl _
  | @step past ns t _ ih =>
    have among : (Render.step policy t).outcome.messages.Sublist _ := (accounts_step t).among
    rw [warned_step, messages_step]
    refine (among.append_left (Node.messagesAll ns)).trans ?_
    rw [← List.append_assoc]
    exact ih.append_right _

/-- Where attributes stand in front, they are all of its warnings. -/
theorem History.accounts_all {document : Source}
    (tidy : JsonMarkup.Tidy policy (.fragment 0) document)
    (h : History policy (.start document) past ns t) :
    t.Tidy policy ∧ Node.messagesAll ns ++ t.messages = warned past := by
  induction h with
  | here => exact ⟨⟨trivial, tidy⟩, rfl⟩
  | @step past ns t _ ih =>
    obtain ⟨tidyState, all⟩ := ih
    refine ⟨tidy_step tidyState, ?_⟩
    rw [warned_step, messages_step, (accounts_step t).all tidyState.clean, ← List.append_assoc, all]

/-- **The trace accounts for errors and tags.** In turn: the messages of the error nodes so far, in
document order, are a subsequence of those of the warnings in the trace; at the end they are the
same, if attributes stand in front of children in every mapping that is the value of a tag; the tags
in progress are a stack; what has happened is a history of the document, in which each tag is
entered with the number of the tags in progress; the tags entered are the beginning of those that
are reached, in document order, and in the end all of them; and without gates there is an end. -/
theorem trace_accounts (policy : Policy) (source : Source) (moves : List Move) :
    let c := course policy source moves
    let document := c.document source
    let messages := (c.nodes.flatMap Node.diagnostics).map (·.message)
    let warned := (traceOf policy.maxDepth c.events).filterMap TraceEntry.warning?
    let ended := c.answers.getLast? = some .ended
    messages.Sublist warned ∧
    (ended → (∀ entries, TagMapping policy entries (.fragment 0) document →
      AttributesFirst entries) → messages = warned) ∧
    (∀ s : State, Turn s.inProgress (step policy s).events (step policy s).outcome.inProgress) ∧
    (∃ past, History policy (.start document) past c.nodes c.stream.state ∧
      past.map Moment.event = c.events ∧
      (∀ m ∈ past, ∀ tag depth, m.event = .enteredTag tag depth → depth = m.inProgress.length) ∧
      ∃ ts, (∀ t, t ∈ ts ↔ Reached policy (.fragment 0) [] document t) ∧ InOrder ts ∧
        entered past <+: ts.map Place.moment ∧ (ended → entered past = ts.map Place.moment)) ∧
    (NoGates (source.mentions ·) →
      ∃ n, (course policy source (List.replicate n .poll)).answers.getLast? = some .ended) := by
  intro c document messages warned ended
  obtain ⟨past, -, history, events⟩ := recorded_course policy source moves
  obtain ⟨_, tracked⟩ := tracked_course policy source moves
  have inTrace : warned = Render.warned past := by
    rw [Render.warned, events]
    exact warnings_traceOf policy.maxDepth c.events
  have inNodes : messages = Node.messagesAll c.nodes := (Node.messagesAll_eq c.nodes).symm
  obtain ⟨begun, complete⟩ := history.entered
  refine ⟨?_, fun hended tidy => ?_, turn_step,
    ⟨past, history, events, fun m hm tag depth hevent => ?_, document.tags policy (.fragment 0) [],
      fun _ => mem_tags, inOrder_tags document, begun,
      fun hended => complete (tracked.ended hended)⟩, polls_end policy⟩
  · rw [inTrace, inNodes]
    exact (List.sublist_append_left _ _).trans history.accounts
  · have all := (history.accounts_all tidy).2
    have finished : c.stream.state = .finished := tracked.ended hended
    rw [inTrace, inNodes, ← all, finished]
    exact (List.append_nil _).symm
  · have isEntered : m ∈ entered past :=
      List.mem_filter.mpr ⟨hm, by rw [hevent]; rfl⟩
    obtain ⟨t, -, rfl⟩ := List.mem_map.mp (begun.subset isEntered)
    cases hevent
    rfl

end Render
end JsonMarkup
