import JsonMarkup.Proofs.Render.Wanted

/-!
# What is to happen

Everything that a rendering still does with pending values, and every node that it still yields, is
decided by what it has left to do. `State.script` is the list of it: each wanted pending value is
started, polled in vain as often as it takes, and ends, before anything else happens, and the node
of an entry of the document comes after everything wanted in that entry.

A gate that is yet to be decided counts as one that fails. Nothing is ever compared with what stands
behind it in a script before it has been decided.

**Main statement (`script_step`).** A step takes off the front of the script what it does, and
leaves the rest.
-/

namespace JsonMarkup

/-- The event is about a pending value. -/
def Event.concernsPending : Event → Bool
  | .started _ | .settled _ | .failed _ => true
  | _ => false

/-- Something that matters for the order of events. -/
inductive Mark where
  /-- A pending value starts or ends. -/
  | event (e : Event)
  /-- A pending value is polled in vain. -/
  | vain
  /-- The node of an entry of the document is yielded. -/
  | node
deriving DecidableEq

namespace Pending

/-- How many polls a pending value takes in vain. -/
def yields : Pending → Nat
  | .deferred _ yields _ | .failing _ yields _ => yields
  | .gate _ => 0

/-- The event with which a pending value ends. -/
def ending : Pending → Event
  | .deferred label _ _ => .settled label
  | .failing label _ _ => .failed label
  | .gate _ => .failed none

/-- What is to come of a pending value that has been started. -/
def toCome (p : Pending) : List Mark := List.replicate p.yields .vain ++ [.event p.ending]

/-- Everything that happens to a pending value. -/
def life (p : Pending) : List Mark := .event (.started p.label) :: p.toCome

end Pending

mutual

/-- What happens until a position holds a value, or fails to. -/
def Source.settling : Source → List Mark
  | .ready _ => []
  | .pending p => .event (.started p.label) :: p.settling

/-- What happens until a pending value that has been started holds a value, or fails to. -/
def Pending.settling : Pending → List Mark
  | .deferred label yields s => (Pending.deferred label yields s).toCome ++ s.settling
  | .failing label yields reason => (Pending.failing label yields reason).toCome
  | .gate id => (Pending.gate id).toCome

end

/-- Everything that happens to these pending values, one after the other. -/
def lives (ws : List Wait) : List Mark := ws.flatMap fun w => w.pending.life

theorem lives_append (ws vs : List Wait) : lives (ws ++ vs) = lives ws ++ lives vs :=
  List.flatMap_append

theorem lives_under (i : Nat) (ws : List Wait) : lives (ws.map (.under i)) = lives ws := by
  rw [lives, List.flatMap_map]
  rfl

/-! ## Scripts of positions -/

/-- What happens in a position. -/
def Source.script (policy : Policy) (role : Role) (s : Source) : List Mark :=
  lives (s.waits policy role)

/-- What happens in the value that a position has come to. -/
def valueScript (policy : Policy) (role : Role) : Except String Value → List Mark
  | .ok v => lives (v.waits policy role)
  | .error _ => []

/-- What happens in the entries of a mapping. -/
def entriesScript (policy : Policy) (role : Role) (entries : List (String × Source)) : List Mark :=
  lives (entriesWaits policy role 0 entries)

/-- What happens in the entries of a list. -/
def itemsScript (policy : Policy) (role : Role) (items : List Source) : List Mark :=
  lives (itemsWaits policy role 0 items)

/-- What happens in the value under a key of a mapping. -/
def entryScript (policy : Policy) (role : Role) (key : String) (s : Source) : List Mark :=
  match role.under? policy key with
  | some inner => s.script policy inner
  | none => []

/-- What happens in the entries of a document that is a mapping. -/
def documentScript (policy : Policy) : List (String × Source) → List Mark
  | [] => []
  | (tag, s) :: rest =>
    entryScript policy (.fragment 0) tag s ++ .node :: documentScript policy rest

variable {policy : Policy} {role : Role}

mutual

/-- A position settles first, and then its value is looked into. -/
theorem script_eq : ∀ s : Source,
    s.script policy role = s.settling ++ valueScript policy role s.outcome
  | .ready _ => rfl
  | .pending p => script_eq_pending p

theorem script_eq_pending : ∀ p : Pending, lives (p.waits policy role) =
    .event (.started p.label) :: (p.settling ++ valueScript policy role p.outcome)
  | .deferred label yields s => by
    have inside : lives ((s.waits policy role).map (.under 0)) = _ :=
      (lives_under 0 _).trans (script_eq s)
    rw [Pending.settling, List.append_assoc, Pending.outcome, ← inside]
    rfl
  | .failing label yields reason => by
    rw [Pending.outcome, valueScript, List.append_nil]
    exact List.append_nil _
  | .gate id => by
    rw [Pending.outcome, valueScript, List.append_nil]
    exact List.append_nil _

end

/-- Numbers of entries do not show in scripts. -/
theorem lives_entriesWaits (i : Nat) (entries : List (String × Source)) :
    lives (entriesWaits policy role i entries) = entriesScript policy role entries := by
  induction entries generalizing i with
  | nil => rfl
  | cons e rest ih =>
    obtain ⟨key, s⟩ := e
    rw [entriesScript, entriesWaits, entriesWaits, lives_append, lives_append]
    congr 1
    · cases role.under? policy key with
      | none => rfl
      | some inner => exact (lives_under i _).trans (lives_under 0 _).symm
    · split
      · exact (ih (i + 1)).trans (ih (0 + 1)).symm
      · rfl

theorem entriesScript_cons (key : String) (s : Source) (rest : List (String × Source)) :
    entriesScript policy role ((key, s) :: rest) =
      entryScript policy role key s ++
        if role.passes (key, s) then entriesScript policy role rest else [] := by
  rw [entriesScript, entriesWaits, lives_append, entryScript]
  congr 1
  · cases role.under? policy key with
    | none => rfl
    | some inner => exact lives_under 0 _
  · split
    · exact lives_entriesWaits _ rest
    · rfl

theorem lives_itemsWaits (i : Nat) (items : List Source) :
    lives (itemsWaits policy role i items) = itemsScript policy role items := by
  induction items generalizing i with
  | nil => rfl
  | cons s rest ih =>
    rw [itemsScript, itemsWaits, itemsWaits, lives_append, lives_append, lives_under, lives_under,
      ih, ih]

theorem itemsScript_cons (s : Source) (rest : List Source) :
    itemsScript policy role (s :: rest) =
      s.script policy role ++ itemsScript policy role rest := by
  rw [itemsScript, itemsWaits, lives_append, lives_under, lives_itemsWaits]
  rfl

theorem entryScript_tag (depth : Nat) (tag : String) (s : Source) :
    entryScript policy (.fragment depth) tag s =
      if policy.admits tag depth then s.script policy (.content depth) else [] := by
  rw [entryScript, Role.under?]
  split <;> simp_all

theorem entryScript_child (depth : Nat) {key : String} (s : Source)
    (h : Render.attributeName? key = none) : entryScript policy (.content depth) key s =
      if policy.admits key (depth + 1) then s.script policy (.content (depth + 1)) else [] := by
  rw [entryScript, Role.under?, h]
  dsimp only
  split <;> simp_all

theorem entryScript_attribute (depth : Nat) {key name : String} (s : Source)
    (h : Render.attributeName? key = some name) :
    entryScript policy (.content depth) key s = s.script policy (.attribute name) := by
  rw [entryScript, Role.under?, h]

/-- Where no key is looked into, nothing happens. -/
theorem entriesScript_eq_nil (unread : ∀ key, role.under? policy key = none)
    (entries : List (String × Source)) : entriesScript policy role entries = [] := by
  induction entries with
  | nil => rfl
  | cons e rest ih =>
    rw [entriesScript_cons, entryScript, unread, ih, ite_self, List.append_nil]

/-- Nothing happens in the value of an attribute that is not the style. -/
theorem valueScript_attribute {name : String} (style : name ≠ Render.styleName)
    (o : Except String Value) : valueScript policy (.attribute name) o = [] := by
  cases o with
  | error reason => rfl
  | ok v =>
    cases v with
    | mapping entries =>
      have unread : ∀ key, Role.under? policy key (.attribute name) = none :=
        fun key => if_neg fun h => style h.1
      exact entriesScript_eq_nil unread entries
    | _ => rfl

theorem valueScript_property (o : Except String Value) :
    valueScript policy .property o = [] := by
  cases o with
  | error reason => rfl
  | ok v =>
    cases v with
    | mapping entries => exact entriesScript_eq_nil (fun _ => rfl) entries
    | _ => rfl

namespace Render

/-! ## Scripts of states -/

/-- What is to happen after the point where the walk is has been dealt with. -/
def closing (policy : Policy) (rest : List (String × Source)) : List Frame → List Mark
  | [] => .node :: documentScript policy rest
  | .spread _ entries items :: outer =>
    entriesScript policy (.fragment (outer.length + 1)) entries ++
      itemsScript policy (.fragment (outer.length + 1)) items ++ closing policy rest outer
  | .members _ entries :: outer =>
    entriesScript policy (.content outer.length) entries ++ closing policy rest outer

/-- What is to happen after the point where the walk is has been dealt with. -/
def Around.closing (policy : Policy) (a : Around) : List Mark :=
  Render.closing policy a.rest a.frames

/-- What happens in properties that are left to merge, and in the entries after the style. -/
def mergeScript (policy : Policy) (depth : Nat) (props entries : List (String × Source)) :
    List Mark :=
  entriesScript policy (.attribute styleName) props ++
    if props.all usable then entriesScript policy (.content depth) entries else []

/-- What is to happen once a wanted value has come to something. -/
def Goal.script (policy : Policy) (a : Around) (o : Except String Value) : Goal → List Mark
  | .document =>
    match o with
    | .ok (.mapping entries) => documentScript policy entries
    | _ => [.node]
  | .item _ items =>
    valueScript policy (.fragment (a.depth + 1)) o ++
      itemsScript policy (.fragment (a.depth + 1)) items ++ a.closing policy
  | .content _ => valueScript policy (.content a.depth) o ++ a.closing policy
  | .namedValue _ name entries =>
    valueScript policy (.attribute name) o ++
      (if takes name o then entriesScript policy (.content a.depth) entries else []) ++
      a.closing policy
  | .property _ _ more entries =>
    (if isScalar o then mergeScript policy a.depth more entries else []) ++ a.closing policy

def State.script (policy : Policy) : State → List Mark
  | .resolving goal s a => s.settling ++ goal.script policy a s.outcome
  | .awaiting goal p a => p.settling ++ goal.script policy a p.outcome
  | .next ⟨[], rest⟩ => documentScript policy rest
  | .next a => a.closing policy
  | .finished => []

/-! ## Steps -/

/-- What an outcome adds to the events of its step. -/
def Outcome.marks : Outcome → List Mark
  | .goOn _ | .stop => []
  | .suspend s => if s.blockedOn?.isSome then [] else [.vain]
  | .yield _ _ => [.node]

def Outcome.state : Outcome → State
  | .goOn s | .suspend s | .yield _ s => s
  | .stop => .finished

/-- The events that are about pending values. -/
def pendingMarks (events : List Event) : List Mark :=
  (events.filter Event.concernsPending).map .event

/-- What a step does. -/
def Step.marks (s : Step) : List Mark := pendingMarks s.events ++ s.outcome.marks

/-- What an outcome adds, and what is to happen then. -/
def Outcome.script (policy : Policy) (o : Outcome) : List Mark :=
  o.marks ++ o.state.script policy

/-- What a step does, and what is to happen then. -/
def Step.script (policy : Policy) (s : Step) : List Mark :=
  pendingMarks s.events ++ s.outcome.script policy

/-- An element is left as it would have been left with another node. -/
theorem script_deliver (node : Node) (a : Around) :
    (deliver node a).script policy = a.closing policy := by
  obtain ⟨frames, rest⟩ := a
  cases frames with
  | nil => rfl
  | cons f outer => cases f <;> rfl

theorem script_reject (goal : Goal) (error : RenderError) (a : Around) (reason : String) :
    (reject goal error a).script policy = goal.script policy a (.error reason) := by
  cases goal with
  | document => rfl
  | item element items => rfl
  | content tag => exact script_deliver _ a
  | namedValue element name entries => exact script_deliver _ a
  | property element name more entries => exact script_deliver _ a

theorem script_enter (tag : String) (value : Source) (a : Around) :
    (enter policy tag value a).script policy =
      (if policy.admits tag a.depth then value.script policy (.content a.depth) else []) ++
        a.closing policy := by
  have refused : ∀ error, (deliver (.error error) a).script policy = a.closing policy :=
    fun error => script_deliver _ a
  unfold enter
  dsimp only
  cases checked : policy.check tag a.depth with
  | error violation =>
    have out : policy.admits tag a.depth = false := by rw [Policy.admits, checked]
    rw [out]
    exact refused _
  | ok _ =>
    have admits : policy.admits tag a.depth = Text.isName tag := by rw [Policy.admits, checked]
    rw [admits]
    cases Text.isName tag with
    | true =>
      show value.settling ++ (valueScript policy _ _ ++ a.closing policy) =
        value.script policy (.content a.depth) ++ a.closing policy
      rw [script_eq, List.append_assoc]
    | false => exact refused _

theorem script_resume (element : Element) (entries : List (String × Source)) (a : Around) :
    (resume element entries a).script policy =
      entriesScript policy (.content a.depth) entries ++ a.closing policy := rfl

theorem script_merge (element : Element) (entries props : List (String × Source)) (a : Around) :
    (merge element entries a props).script policy =
      mergeScript policy a.depth props entries ++ a.closing policy := by
  cases props with
  | nil => exact script_resume element entries a
  | cons p more =>
    obtain ⟨name, value⟩ := p
    rw [merge, mergeScript, entriesScript_cons, List.all_cons]
    by_cases named : name = ""
    · subst named
      exact script_reject (.property element "" more entries) _ a ""
    · have inside : entryScript policy (.attribute styleName) name value = value.settling := by
        rw [entryScript, Role.under?, if_pos ⟨rfl, named⟩]
        show value.script policy .property = _
        rw [script_eq, valueScript_property, List.append_nil]
      have passes : usable (name, value) = isScalar value.outcome := by simp [usable, named]
      rw [if_neg named, inside, Role.passes, passes]
      show value.settling ++ (Goal.property element name more entries).script policy a
        value.outcome = _
      rw [Goal.script]
      cases isScalar value.outcome with
      | true =>
        rw [Bool.true_and]
        simp [mergeScript]
      | false => simp

theorem script_apply (element : Element) (name : String) (entries : List (String × Source))
    (a : Around) (value : Value) :
    (apply element name entries a value).script policy =
      (Goal.namedValue element name entries).script policy a (.ok value) := by
  have refused : takes name (.ok value) = false → valueScript policy (.attribute name) (.ok value) =
      [] → (reject (.namedValue element name entries) (.badAttribute name element.tag) a).script
        policy = (Goal.namedValue element name entries).script policy a (.ok value) := by
    intro unusable unread
    rw [Goal.script, unusable, unread]
    exact script_deliver _ a
  have resumed : ∀ e : Element, takes name (.ok value) = true →
      valueScript policy (.attribute name) (.ok value) = [] →
      (resume e entries a).script policy =
        (Goal.namedValue element name entries).script policy a (.ok value) := by
    intro e usable unread
    rw [Goal.script, usable, unread]
    exact script_resume e entries a
  unfold apply
  dsimp only
  by_cases text : name = textName
  · subst text
    have unread : valueScript policy (.attribute textName) (.ok value) = [] :=
      valueScript_attribute (by decide) _
    rw [if_pos rfl]
    cases value with
    | text t => exact resumed _ rfl unread
    | mapping properties => exact refused rfl unread
    | _ => exact refused rfl unread
  · rw [if_neg text]
    by_cases style : name = styleName
    · subst style
      rw [if_pos rfl]
      cases value with
      | text css => exact resumed _ rfl rfl
      | mapping properties => exact script_merge element entries properties a
      | _ => exact refused rfl rfl
    · rw [if_neg style]
      have unread : valueScript policy (.attribute name) (.ok value) = [] :=
        valueScript_attribute style _
      cases value with
      | text t =>
        have named : takes name (.ok (.text t)) = Text.isName name := by simp [takes, text, style]
        dsimp only
        split
        · rename_i isName
          exact resumed _ (named.trans isName) unread
        · rename_i notName
          exact refused (named.trans (Bool.eq_false_iff.mpr notName)) unread
      | mapping properties => exact refused (by simp [takes, style]) unread
      | _ => exact refused rfl unread

/-- Using a value does what is to happen with what it has come to. -/
theorem script_conclude (goal : Goal) (a : Around) (value : Value) :
    (conclude goal a value).script policy = goal.script policy a (.ok value) := by
  cases goal with
  | document =>
    cases value with
    | mapping entries => cases entries <;> rfl
    | _ => rfl
  | item element items =>
    cases value with
    | mapping entries => rfl
    | _ => rfl
  | content tag =>
    cases value with
    | text t => exact script_deliver _ a
    | mapping entries => rfl
    | list items => rfl
    | _ => exact script_deliver _ a
  | namedValue element name entries => exact script_apply element name entries a value
  | property element name more entries =>
    rw [conclude, Goal.script, isScalar]
    cases propertyValue? value with
    | some v => exact script_merge _ entries more a
    | none => exact script_deliver _ a

/-- Taking up the next entry does what is to happen in it. -/
theorem script_takeNext (a : Around) :
    (takeNext policy a).script policy = (State.next a).script policy := by
  obtain ⟨frames, rest⟩ := a
  cases frames with
  | nil =>
    cases rest with
    | nil => rfl
    | cons e rest =>
      refine (script_enter e.1 e.2 ⟨[], rest⟩).trans ?_
      rw [State.script, documentScript, entryScript_tag]
      rfl
  | cons f outer =>
    cases f with
    | spread element entries items =>
      cases entries with
      | cons e entries =>
        refine (script_enter e.1 e.2 ⟨.spread element entries items :: outer, rest⟩).trans ?_
        show _ ++ (entriesScript policy _ entries ++ itemsScript policy _ items ++ closing policy
          rest outer) = entriesScript policy (.fragment (outer.length + 1)) (e :: entries) ++
            itemsScript policy _ items ++ closing policy rest outer
        rw [entriesScript_cons, entryScript_tag, List.append_assoc, List.append_assoc,
          List.append_assoc]
        rfl
      | nil =>
        cases items with
        | cons item items =>
          show item.settling ++ (valueScript policy _ _ ++ itemsScript policy _ items ++
            closing policy rest outer) = itemsScript policy (.fragment (outer.length + 1))
              (item :: items) ++ closing policy rest outer
          rw [itemsScript_cons, script_eq, List.append_assoc, List.append_assoc, List.append_assoc]
          rfl
        | nil => exact script_deliver _ ⟨outer, rest⟩
    | members element entries =>
      cases entries with
      | cons e entries =>
        obtain ⟨key, value⟩ := e
        show _ = entriesScript policy (.content outer.length) ((key, value) :: entries) ++
          closing policy rest outer
        rw [entriesScript_cons, Role.passes, acceptable]
        dsimp only [takeNext]
        cases hkey : attributeName? key with
        | some name =>
          rw [entryScript_attribute _ _ hkey, script_eq]
          show value.settling ++ (valueScript policy _ _ ++ (if takes name value.outcome then
            entriesScript policy (.content outer.length) entries else []) ++ closing policy rest
              outer) = _
          rw [List.append_assoc, List.append_assoc, List.append_assoc]
        | none =>
          rw [entryScript_child _ _ hkey, if_pos rfl, List.append_assoc]
          exact script_enter key value ⟨.members element entries :: outer, rest⟩
      | nil => exact script_deliver _ ⟨outer, rest⟩

theorem script_await (goal : Goal) (a : Around) (p : Pending) :
    (await goal a p).script policy = (State.awaiting goal p a).script policy := by
  cases p with
  | deferred label yields s =>
    cases yields with
    | zero => rfl
    | succ yields => rfl
  | failing label yields reason =>
    cases yields with
    | zero => exact congrArg (.event (.failed label) :: ·) (script_reject goal _ a reason)
    | succ yields => rfl
  | gate id => rfl

/-- **A step does what is to happen.** -/
theorem script_step (s : State) : (step policy s).script policy = s.script policy := by
  cases s with
  | resolving goal source a =>
    cases source with
    | ready value => exact script_conclude goal a value
    | pending p => rfl
  | awaiting goal p a => exact script_await goal a p
  | next a => exact script_takeNext a
  | finished => rfl

end Render
end JsonMarkup
