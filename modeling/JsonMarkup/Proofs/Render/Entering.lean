import JsonMarkup.Proofs.Render.History
import JsonMarkup.Proofs.Render.Reached

/-!
# Tags that are entered

The tags that a rendering still enters, and when, are decided by what it has left to do.
`State.toEnter` is the list of these moments.

**Main statement (`toEnter_step`).** A step takes off the front of the list the tag that it enters,
if it enters one, and leaves the rest. So the tags that a rendering enters are those that are
reached, in document order, and each is entered while exactly the tags that it lies in are in
progress (`History.entered`).
-/

namespace JsonMarkup

/-- A tag is entered while the tags that it lies in are in progress, and their number is told. -/
def Place.moment (t : Place) : Moment := ⟨.enteredTag t.tag t.above.length, t.above⟩

def moments (ts : List Place) : List Moment := ts.map Place.moment

theorem moments_append (ts us : List Place) : moments (ts ++ us) = moments ts ++ moments us :=
  List.map_append

theorem moments_under (i : Nat) (ts : List Place) : moments (ts.map (.under i)) = moments ts := by
  rw [moments, List.map_map]
  rfl

/-! ## Moments of positions -/

/-- The tags of the value that a position has come to are entered. -/
def valueMoments (policy : Policy) (role : Role) (above : List String) :
    Except String Value → List Moment
  | .ok v => moments (v.tags policy role above)
  | .error _ => []

/-- The tags of the entries of a mapping are entered. -/
def entriesMoments (policy : Policy) (role : Role) (above : List String)
    (entries : List (String × Source)) : List Moment :=
  moments (entriesTags policy role above 0 entries)

/-- The tags of the entries of a list are entered. -/
def itemsMoments (policy : Policy) (role : Role) (above : List String) (items : List Source) :
    List Moment :=
  moments (itemsTags policy role above 0 items)

/-- A tag is entered, and then those in its value unless it is refused. -/
def tagMoments (policy : Policy) (depth : Nat) (above : List String) (tag : String) (s : Source) :
    List Moment :=
  ⟨.enteredTag tag above.length, above⟩ ::
    if policy.admits tag depth then moments (s.tags policy (.content depth) (above ++ [tag]))
    else []

variable {policy : Policy} {role : Role} {above : List String}

mutual

/-- Only what a position comes to matters. -/
theorem moments_tags : ∀ s : Source,
    moments (s.tags policy role above) = valueMoments policy role above s.outcome
  | .ready _ => rfl
  | .pending p => moments_pendingTags p

theorem moments_pendingTags : ∀ p : Pending,
    moments (p.tags policy role above) = valueMoments policy role above p.outcome
  | .deferred _ _ s => (moments_under 0 _).trans (moments_tags s)
  | .failing _ _ _ | .gate _ => rfl

end

/-- Numbers of entries do not show in moments. -/
theorem moments_entriesTags (i : Nat) (entries : List (String × Source)) :
    moments (entriesTags policy role above i entries) =
      entriesMoments policy role above entries := by
  induction entries generalizing i with
  | nil => rfl
  | cons e rest ih =>
    obtain ⟨key, s⟩ := e
    have later : ∀ j, moments (if role.passes (key, s) then
        entriesTags policy role above j rest else []) =
          if role.passes (key, s) then entriesMoments policy role above rest else [] := by
      intro j
      split
      · exact ih j
      · rfl
    rw [entriesMoments, entriesTags, entriesTags, moments_append, moments_append, later, later]
    congr 1
    cases role.tagDepth? key with
    | none => rfl
    | some depth =>
      dsimp only
      split
      · exact congrArg (_ :: ·) ((moments_under i _).trans (moments_under 0 _).symm)
      · rfl

theorem entriesMoments_tag {key : String} {depth : Nat} (s : Source)
    (rest : List (String × Source)) (h : role.tagDepth? key = some depth) :
    entriesMoments policy role above ((key, s) :: rest) =
      tagMoments policy depth above key s ++
        if role.passes (key, s) then entriesMoments policy role above rest else [] := by
  rw [entriesMoments, entriesTags, h, moments_append]
  congr 1
  · rw [tagMoments]
    dsimp only
    split
    · exact congrArg (_ :: ·) (moments_under 0 _)
    · rfl
  · split
    · exact moments_entriesTags _ rest
    · rfl

theorem entriesMoments_other {key : String} (s : Source) (rest : List (String × Source))
    (h : role.tagDepth? key = none) :
    entriesMoments policy role above ((key, s) :: rest) =
      if role.passes (key, s) then entriesMoments policy role above rest else [] := by
  rw [entriesMoments, entriesTags, h, List.nil_append]
  split
  · exact moments_entriesTags _ rest
  · rfl

theorem moments_itemsTags (i : Nat) (items : List Source) :
    moments (itemsTags policy role above i items) = itemsMoments policy role above items := by
  induction items generalizing i with
  | nil => rfl
  | cons s rest ih =>
    rw [itemsMoments, itemsTags, itemsTags, moments_append, moments_append, moments_under,
      moments_under, ih, ih]

theorem itemsMoments_cons (s : Source) (rest : List Source) :
    itemsMoments policy role above (s :: rest) =
      valueMoments policy role above s.outcome ++ itemsMoments policy role above rest := by
  rw [itemsMoments, itemsTags, moments_append, moments_under, moments_itemsTags, moments_tags]

namespace Render

/-! ## Moments of states -/

/-- The tags that are entered after the point where the walk is has been dealt with. -/
def toEnter (policy : Policy) (rest : List (String × Source)) : List Frame → List Moment
  | [] => entriesMoments policy (.fragment 0) [] rest
  | .spread element entries items :: outer =>
    let above := openTags outer ++ [element.tag]
    entriesMoments policy (.fragment (outer.length + 1)) above entries ++
      itemsMoments policy (.fragment (outer.length + 1)) above items ++ toEnter policy rest outer
  | .members element entries :: outer =>
    entriesMoments policy (.content outer.length) (openTags outer ++ [element.tag]) entries ++
      toEnter policy rest outer

/-- The tags that are entered after the point where the walk is has been dealt with. -/
def Around.toEnter (policy : Policy) (a : Around) : List Moment :=
  Render.toEnter policy a.rest a.frames

/-- The tags in the entries of an element after an attribute are entered, if it can be used. -/
def restMoments (policy : Policy) (a : Around) (element : Element) (use : Bool)
    (entries : List (String × Source)) : List Moment :=
  if use then entriesMoments policy (.content a.depth) (openTags a.frames ++ [element.tag]) entries
  else []

/-- The tags that are entered once a wanted value has come to something. -/
def Goal.toEnter (policy : Policy) (a : Around) (o : Except String Value) : Goal → List Moment
  | .document => valueMoments policy (.fragment 0) [] o
  | .item element items =>
    let above := openTags a.frames ++ [element.tag]
    valueMoments policy (.fragment (a.depth + 1)) above o ++
      itemsMoments policy (.fragment (a.depth + 1)) above items ++ a.toEnter policy
  | .content tag =>
    valueMoments policy (.content a.depth) (openTags a.frames ++ [tag]) o ++ a.toEnter policy
  | .namedValue element name entries =>
    restMoments policy a element (takes name o) entries ++ a.toEnter policy
  | .property element _ more entries =>
    restMoments policy a element (isScalar o && more.all usable) entries ++ a.toEnter policy

/-- The tags that are still to be entered. -/
def State.toEnter (policy : Policy) : State → List Moment
  | .resolving goal s a => goal.toEnter policy a s.outcome
  | .awaiting goal p a => goal.toEnter policy a p.outcome
  | .next a => a.toEnter policy
  | .finished => []

/-- The tags that a step enters while these are in progress, and those that are entered then. -/
def Step.toEnter (policy : Policy) (inProgress : List String) (s : Step) : List Moment :=
  (s.moments inProgress).filter (·.event.entersTag) ++ s.outcome.state.toEnter policy

/-! ## Steps -/

theorem toEnter_deliver (node : Node) (a : Around) :
    (deliver node a).state.toEnter policy = a.toEnter policy := by
  obtain ⟨frames, rest⟩ := a
  cases frames with
  | nil => rfl
  | cons f outer => cases f <;> rfl

theorem toEnter_reject (goal : Goal) (error : RenderError) (a : Around) (inProgress : List String)
    (reason : String) :
    (reject goal error a).toEnter policy inProgress = goal.toEnter policy a (.error reason) := by
  cases goal with
  | document => rfl
  | item element items => rfl
  | content tag => exact toEnter_deliver _ a
  | namedValue element name entries => exact toEnter_deliver _ a
  | property element name more entries => exact toEnter_deliver _ a

theorem toEnter_enter (tag : String) (value : Source) (a : Around) :
    (enter policy tag value a).toEnter policy (openTags a.frames) =
      tagMoments policy a.depth (openTags a.frames) tag value ++ a.toEnter policy := by
  have deep : a.depth = (openTags a.frames).length := (length_openTags a.frames).symm
  have refused : ∀ error, (deliver (.error error) a).state.toEnter policy = a.toEnter policy :=
    fun error => toEnter_deliver _ a
  rw [tagMoments, ← deep]
  unfold enter
  dsimp only
  cases checked : policy.check tag a.depth with
  | error violation =>
    have out : policy.admits tag a.depth = false := by rw [Policy.admits, checked]
    rw [out]
    exact congrArg (_ :: ·) (refused _)
  | ok _ =>
    have admits : policy.admits tag a.depth = Text.isName tag := by rw [Policy.admits, checked]
    rw [admits]
    cases Text.isName tag with
    | true =>
      rw [if_pos rfl, if_pos rfl, moments_tags]
      rfl
    | false => exact congrArg (_ :: ·) (refused _)

theorem toEnter_resume (element : Element) (entries : List (String × Source)) (a : Around) :
    (resume element entries a).state.toEnter policy =
      restMoments policy a element true entries ++ a.toEnter policy := rfl

theorem toEnter_merge (element : Element) (entries props : List (String × Source)) (a : Around)
    (inProgress : List String) :
    (merge element entries a props).toEnter policy inProgress =
      restMoments policy a element (props.all usable) entries ++ a.toEnter policy := by
  cases props with
  | nil => exact toEnter_resume element entries a
  | cons p more =>
    obtain ⟨name, value⟩ := p
    rw [merge, List.all_cons]
    by_cases named : name = ""
    · subst named
      exact toEnter_reject (.property element "" more entries) _ a inProgress ""
    · have same : usable (name, value) = isScalar value.outcome := by simp [usable, named]
      rw [if_neg named, same]
      rfl

theorem toEnter_apply (element : Element) (name : String) (entries : List (String × Source))
    (a : Around) (value : Value) (inProgress : List String) :
    (apply element name entries a value).toEnter policy inProgress =
      (Goal.namedValue element name entries).toEnter policy a (.ok value) := by
  have refused : takes name (.ok value) = false → ∀ error,
      (reject (.namedValue element name entries) error a).toEnter policy inProgress =
        (Goal.namedValue element name entries).toEnter policy a (.ok value) := by
    intro useless error
    rw [toEnter_reject _ error a inProgress "", Goal.toEnter, Goal.toEnter, useless]
    rfl
  have resumed : takes name (.ok value) = true → ∀ changed : Element, changed.tag = element.tag →
      (resume changed entries a).state.toEnter policy =
        (Goal.namedValue element name entries).toEnter policy a (.ok value) := by
    intro useful changed same
    rw [toEnter_resume, Goal.toEnter, useful, restMoments, restMoments, same]
  unfold apply
  dsimp only
  by_cases text : name = textName
  · rw [if_pos text]
    cases value with
    | text content => exact resumed (by simp [takes, text]) _ rfl
    | mapping properties => exact refused (by simp [takes, text, textName, styleName]) _
    | _ => exact refused rfl _
  · rw [if_neg text]
    by_cases style : name = styleName
    · rw [if_pos style]
      cases value with
      | text css => exact resumed (by simp [takes, style]) _ rfl
      | mapping properties =>
        have useful : takes name (.ok (.mapping properties)) = properties.all usable := by
          simp [takes, style]
        rw [Goal.toEnter, useful]
        exact toEnter_merge element entries properties a inProgress
      | _ => exact refused rfl _
    · rw [if_neg style]
      cases value with
      | text content =>
        have useful : takes name (.ok (.text content)) = Text.isName name := by
          simp [takes, text, style]
        dsimp only
        cases named : Text.isName name with
        | true => exact resumed (useful.trans named) _ rfl
        | false => exact refused (useful.trans named) _
      | mapping properties => exact refused (by simp [takes, style]) _
      | _ => exact refused rfl _

/-- Using a value leads on to the tags that are to be entered with what it has come to. -/
theorem toEnter_conclude (goal : Goal) (a : Around) (value : Value) (inProgress : List String) :
    (conclude goal a value).toEnter policy inProgress = goal.toEnter policy a (.ok value) := by
  cases goal with
  | document => cases value <;> rfl
  | item element items => cases value <;> rfl
  | content tag =>
    cases value with
    | mapping entries => rfl
    | list items => rfl
    | _ => exact toEnter_deliver _ a
  | namedValue element name entries => exact toEnter_apply element name entries a value inProgress
  | property element name more entries =>
    rw [conclude, Goal.toEnter, isScalar]
    cases propertyValue? value with
    | some change =>
      let changed : Element := { element with style := setProperty element.style name change }
      exact toEnter_merge changed entries more a inProgress
    | none => exact toEnter_deliver _ a

/-- Taking up the next entry enters its tag, if it is one. -/
theorem toEnter_takeNext (a : Around) :
    (takeNext policy a).toEnter policy (openTags a.frames) = a.toEnter policy := by
  obtain ⟨frames, rest⟩ := a
  cases frames with
  | nil =>
    cases rest with
    | nil => rfl
    | cons e rest =>
      have isTag : (Role.fragment 0).tagDepth? e.1 = some 0 := rfl
      exact (toEnter_enter e.1 e.2 ⟨[], rest⟩).trans (entriesMoments_tag e.2 rest isTag).symm
  | cons f outer =>
    cases f with
    | spread element entries items =>
      cases entries with
      | cons e entries =>
        have isTag : (Role.fragment (outer.length + 1)).tagDepth? e.1 = some (outer.length + 1) :=
          rfl
        refine (toEnter_enter e.1 e.2 ⟨.spread element entries items :: outer, rest⟩).trans ?_
        show _ = entriesMoments policy (.fragment (outer.length + 1)) _ (e :: entries) ++
          itemsMoments policy _ _ items ++ toEnter policy rest outer
        rw [entriesMoments_tag e.2 entries isTag, List.append_assoc, List.append_assoc]
        show _ ++ (entriesMoments policy _ _ entries ++ itemsMoments policy _ _ items ++ _) = _
        rw [List.append_assoc]
        rfl
      | nil =>
        cases items with
        | cons item items =>
          show _ = itemsMoments policy (.fragment (outer.length + 1)) _ (item :: items) ++
            toEnter policy rest outer
          rw [itemsMoments_cons]
          rfl
        | nil => exact toEnter_deliver _ ⟨outer, rest⟩
    | members element entries =>
      cases entries with
      | cons e entries =>
        obtain ⟨key, value⟩ := e
        show _ = entriesMoments policy (.content outer.length) _ ((key, value) :: entries) ++
          toEnter policy rest outer
        dsimp only [takeNext]
        cases hkey : attributeName? key with
        | some name =>
          have noTag : (Role.content outer.length).tagDepth? key = none := by
            simp [Role.tagDepth?, hkey]
          rw [entriesMoments_other value entries noTag, Role.passes, acceptable, hkey]
          rfl
        | none =>
          have isTag : (Role.content outer.length).tagDepth? key = some (outer.length + 1) :=
            if_pos hkey
          rw [entriesMoments_tag value entries isTag, Role.passes, acceptable, hkey,
            List.append_assoc]
          exact toEnter_enter key value ⟨.members element entries :: outer, rest⟩
      | nil => exact toEnter_deliver _ ⟨outer, rest⟩

/-- **A step enters the tag that is to be entered next**, or none. -/
theorem toEnter_step (s : State) :
    (step policy s).toEnter policy s.inProgress = s.toEnter policy := by
  cases s with
  | resolving goal source a =>
    cases source with
    | ready value => exact toEnter_conclude goal a value _
    | pending p => rfl
  | awaiting goal p a =>
    cases p with
    | deferred label yields s => cases yields <;> rfl
    | failing label yields reason =>
      cases yields with
      | zero => exact toEnter_reject goal (.unresolved reason) a (goal.inProgress a) reason
      | succ yields => rfl
    | gate id => rfl
  | next a => exact toEnter_takeNext a
  | finished => rfl

/-- The tags that have been entered, and when. -/
def entered (past : List Moment) : List Moment := past.filter (·.event.entersTag)

variable {s t : State} {past : List Moment} {ns : List Node}

/-- What has been entered in a history stands at the front of what was to be entered. -/
theorem History.toEnter (h : History policy s past ns t) :
    entered past ++ t.toEnter policy = s.toEnter policy := by
  induction h with
  | here => rfl
  | @step past ns t _ ih =>
    rw [← ih, ← toEnter_step t, entered, List.filter_append, List.append_assoc]
    rfl

/-- **The tags that a rendering enters** are those that are reached, in document order; in the end
they are all of them. -/
theorem History.entered {document : Source} (h : History policy (.start document) past ns t) :
    entered past <+: moments (document.tags policy (.fragment 0) []) ∧
      (t = .finished → Render.entered past = moments (document.tags policy (.fragment 0) [])) := by
  have split := h.toEnter
  have all : (State.start document).toEnter policy =
      moments (document.tags policy (.fragment 0) []) := (moments_tags document).symm
  rw [all] at split
  refine ⟨⟨_, split⟩, fun ended => ?_⟩
  rw [ended] at split
  rw [← split]
  exact (List.append_nil _).symm

end Render
end JsonMarkup
