import JsonMarkup.Proofs.Render.Course
import JsonMarkup.Proofs.Render.Plain

/-!
# Only admissible elements are rendered

Wherever an element stands in the output, the policy lets its tag through at exactly that depth,
and its names can be written as they are.

**Theorem (`admissible_of_rendered`).** Every element that stands below `k` others in a node of a
rendering has a tag that the policy lets through at depth `k`, whatever was polled and decided.

The invariant `State.Sound` says this of the elements that are still open: the one that stands
below `k` open elements has been let through at depth `k`, and its children are sound one level
deeper. Depth is therefore the number of open elements on both ways down, through mappings and
through lists.
-/

namespace JsonMarkup

/-! ## What a policy lets through -/

/-- A tag is let through if it is not excluded, if it is included where anything is, and if it does
not stand too deep. -/
theorem Policy.check_eq_ok_iff {policy : Policy} {tag : String} {depth : Nat} :
    policy.check tag depth = .ok () ↔
      (∀ tags, policy.excluded = some tags → tags.contains tag = false) ∧
      (∀ tags, policy.included = some tags → tags.isEmpty = false → tags.contains tag = true) ∧
      (∀ maxDepth, policy.maxDepth = some maxDepth → depth ≤ maxDepth) := by
  have hex : policy.excludes tag = false ↔
      ∀ tags, policy.excluded = some tags → tags.contains tag = false := by
    cases h : policy.excluded <;> simp [Policy.excludes, h]
  have hin : policy.omits tag = false ↔
      ∀ tags, policy.included = some tags → tags.isEmpty = false → tags.contains tag = true := by
    cases h : policy.included <;> simp [Policy.omits, h]
  rw [← hex, ← hin, Policy.check]
  cases policy.excludes tag with
  | true => simp
  | false =>
    cases policy.omits tag with
    | true => simp
    | false =>
      cases policy.maxDepth with
      | none => simp
      | some maxDepth =>
        by_cases h : maxDepth < depth
        · simp [h]
        · simpa [h] using Nat.le_of_not_lt h

/-! ## Elements in nodes -/

/-- An element of this tag and with these attributes stands in a node, below `k` other elements of
it. -/
inductive Stands (tag : String) (attributes : Fields String) : Nat → Node → Prop
  | here {style : Style} {children : List Node} :
    Stands tag attributes 0 (.element tag attributes style children)
  | within {k : Nat} {outerTag : String} {outerAttributes : Fields String} {style : Style}
    {children : List Node} {child : Node} : child ∈ children → Stands tag attributes k child →
    Stands tag attributes (k + 1) (.element outerTag outerAttributes style children)

mutual

/-- Number of elements in the longest chain of elements of a node, each a child of the one
before. -/
def Node.nesting : Node → Nat
  | .text _ | .error _ => 0
  | .element _ _ _ children => nestingAll children + 1

/-- Number of elements in the longest chain of elements of several siblings. -/
def nestingAll : List Node → Nat
  | [] => 0
  | n :: rest => max n.nesting (nestingAll rest)

end

/-- The longest chain of elements ends in an element that stands below all others of the chain. -/
theorem Node.exists_stands : ∀ {n : Node} {k : Nat}, n.nesting = k + 1 →
    ∃ tag attributes, Stands tag attributes k n
  | .text _, _, h | .error _, _, h => by simp [Node.nesting] at h
  | .element tag attributes style children, k, h => by
    have hk : nestingAll children = k := by simpa [Node.nesting] using h
    cases k with
    | zero => exact ⟨tag, attributes, .here⟩
    | succ k =>
      -- Some child holds a chain that is one element shorter.
      have inside : ∀ {children : List Node} {k : Nat}, nestingAll children = k + 1 →
          ∃ child ∈ children, child.nesting = k + 1 := by
        intro children k hk
        induction children with
        | nil => simp [nestingAll] at hk
        | cons n rest ih =>
          rw [nestingAll] at hk
          rcases Nat.le_total n.nesting (nestingAll rest) with hle | hle
          · obtain ⟨child, hmem, hn⟩ := ih (by omega)
            exact ⟨child, List.mem_cons_of_mem _ hmem, hn⟩
          · exact ⟨n, List.mem_cons_self, by omega⟩
      obtain ⟨child, hmem, hn⟩ := inside hk
      obtain ⟨t, a, hs⟩ := Node.exists_stands hn
      exact ⟨t, a, .within hmem hs⟩

namespace Render

/-! ## Sound nodes and states -/

/-- An element of this tag and with these attributes may stand below `k` others. -/
structure Admissible (policy : Policy) (k : Nat) (tag : String) (attributes : Fields String) :
    Prop where
  allowed : policy.check tag k = .ok ()
  named : Text.isName tag = true
  attributes : ∀ name ∈ attributes.names,
    Text.isName name = true ∧ name ≠ textName ∧ name ≠ styleName

/-- Every element of a node that stands below `k` others is admissible. -/
def SoundAt (policy : Policy) (k : Nat) (n : Node) : Prop :=
  ∀ (j : Nat) (tag : String) (attributes : Fields String), Stands tag attributes j n →
    Admissible policy (k + j) tag attributes

theorem soundAt_text {policy : Policy} {k : Nat} {content : String} :
    SoundAt policy k (.text content) := fun _ _ _ h => by cases h

theorem soundAt_error {policy : Policy} {k : Nat} {message : String} :
    SoundAt policy k (.error message) := fun _ _ _ h => by cases h

/-- The open element is admissible below `k` others, and so is what stands in it so far. -/
structure OpenAt (policy : Policy) (k : Nat) (e : Element) : Prop where
  admissible : Admissible policy k e.tag e.attributes
  children : ∀ n ∈ e.children.toList, SoundAt policy (k + 1) n

variable {policy : Policy} {k : Nat} {e : Element}

theorem OpenAt.toNode (h : OpenAt policy k e) : SoundAt policy k e.toNode := by
  intro j tag attributes hs
  cases hs with
  | here => exact h.admissible
  | within hmem hs =>
    rw [Nat.add_comm _ 1, ← Nat.add_assoc]
    exact h.children _ hmem _ _ _ hs

theorem OpenAt.new {tag : String} (allowed : policy.check tag k = .ok ())
    (named : Text.isName tag = true) : OpenAt policy k (Element.new tag) where
  admissible := ⟨allowed, named, by simp [Element.new, Fields.names, Fields.empty]⟩
  children := by simp [Element.new]

theorem OpenAt.append (h : OpenAt policy k e) {n : Node} (hn : SoundAt policy (k + 1) n) :
    OpenAt policy k (e.append n) where
  admissible := h.admissible
  children := by
    intro m hm
    rw [Element.append, Array.toList_push] at hm
    rcases List.mem_append.mp hm with hm | hm
    · exact h.children m hm
    · rw [List.mem_singleton.mp hm]
      exact hn

theorem OpenAt.setText (h : OpenAt policy k e) (text : String) :
    OpenAt policy k (e.setText text) where
  admissible := h.admissible
  children := by
    intro m hm
    unfold Element.setText at hm
    dsimp only at hm
    split at hm
    · cases hm
    · rw [List.mem_singleton.mp hm]
      exact soundAt_text

theorem OpenAt.setAttribute (h : OpenAt policy k e) {name : String} (value : String)
    (named : Text.isName name = true) (text : name ≠ textName) (style : name ≠ styleName) :
    OpenAt policy k (e.setAttribute name value) where
  admissible := by
    refine ⟨h.admissible.allowed, h.admissible.named, fun n hn => ?_⟩
    rw [Element.setAttribute, Fields.names_set] at hn
    split at hn
    · exact h.admissible.attributes n hn
    · rcases List.mem_append.mp hn with hn | hn
      · exact h.admissible.attributes n hn
      · rw [List.mem_singleton.mp hn]
        exact ⟨named, text, style⟩
  children := h.children

theorem OpenAt.setStyle (h : OpenAt policy k e) (style : Style) :
    OpenAt policy k { e with style } := ⟨h.admissible, h.children⟩

def Frame.element : Frame → Element
  | .spread element _ _ => element
  | .members element _ => element

/-- Each open element is admissible below the ones around it. -/
def FramesSound (policy : Policy) : List Frame → Prop
  | [] => True
  | f :: outer => OpenAt policy outer.length f.element ∧ FramesSound policy outer

/-- The element that a value is wanted for is admissible below `k` others. -/
def Goal.SoundAt (policy : Policy) (k : Nat) : Goal → Prop
  | .document => True
  | .item element _ => OpenAt policy k element
  | .content tag => policy.check tag k = .ok () ∧ Text.isName tag = true
  | .namedValue element _ _ => OpenAt policy k element
  | .property element _ _ _ => OpenAt policy k element

/-- The open elements and the one that a value is wanted for are admissible where they stand. -/
def State.Sound (policy : Policy) : State → Prop
  | .resolving goal _ a => goal.SoundAt policy a.depth ∧ FramesSound policy a.frames
  | .awaiting goal _ a => goal.SoundAt policy a.depth ∧ FramesSound policy a.frames
  | .next a => FramesSound policy a.frames
  | .finished => True

/-- What is yielded is sound, and so is what is left. -/
def Outcome.Sound (policy : Policy) : Outcome → Prop
  | .goOn s => s.Sound policy
  | .suspend s => s.Sound policy
  | .yield n s => Render.SoundAt policy 0 n ∧ s.Sound policy
  | .stop => True

/-! ## Steps keep soundness -/

variable {a : Around}

theorem deliver_sound {n : Node} (ha : FramesSound policy a.frames)
    (hn : SoundAt policy a.depth n) : (deliver n a).Sound policy := by
  obtain ⟨frames, rest⟩ := a
  cases frames with
  | nil => exact ⟨hn, trivial⟩
  | cons f outer =>
    obtain ⟨hf, houter⟩ := ha
    cases f with
    | spread element entries items => exact ⟨hf.append hn, houter⟩
    | members element entries => exact ⟨hf.append hn, houter⟩

theorem reject_sound {goal : Goal} (error : RenderError) (ha : FramesSound policy a.frames)
    (hg : goal.SoundAt policy a.depth) : (reject goal error a).outcome.Sound policy := by
  cases goal with
  | document => exact ⟨soundAt_error, trivial⟩
  | item element items => exact ⟨OpenAt.append hg soundAt_error, ha⟩
  | content tag => exact deliver_sound ha soundAt_error
  | namedValue element name entries => exact deliver_sound ha soundAt_error
  | property element name more entries => exact deliver_sound ha soundAt_error

/-- A tag that is not let through, or that cannot be written, opens no element. -/
theorem enter_sound {tag : String} {value : Source} (ha : FramesSound policy a.frames) :
    (enter policy tag value a).outcome.Sound policy := by
  have refused : ∀ error, (reject (.content tag) error a).outcome.Sound policy :=
    fun error => deliver_sound ha soundAt_error
  unfold enter
  dsimp only
  split
  · exact refused _
  · rename_i allowed
    split
    · rename_i named
      exact ⟨⟨allowed, named⟩, ha⟩
    · exact refused _

theorem merge_sound {element : Element} {entries props : List (String × Source)}
    (ha : FramesSound policy a.frames) (he : OpenAt policy a.depth element) :
    (merge element entries a props).outcome.Sound policy := by
  unfold merge
  split
  · exact ⟨he, ha⟩
  · dsimp only
    split
    · exact reject_sound _ ha he
    · exact ⟨he, ha⟩

theorem apply_sound {element : Element} {name : String} {entries : List (String × Source)}
    {value : Value} (ha : FramesSound policy a.frames) (he : OpenAt policy a.depth element) :
    (apply element name entries a value).outcome.Sound policy := by
  have refused : ∀ error,
      (reject (.namedValue element name entries) error a).outcome.Sound policy :=
    fun error => reject_sound error ha he
  unfold apply
  dsimp only
  split
  · split
    · exact ⟨he.setText _, ha⟩
    · exact refused _
  · rename_i text
    split
    · split
      · exact ⟨he.setStyle _, ha⟩
      · exact merge_sound ha he
      · exact refused _
    · rename_i style
      split
      · split
        · rename_i named
          exact ⟨he.setAttribute _ named text style, ha⟩
        · exact refused _
      · exact refused _

theorem conclude_sound {goal : Goal} {value : Value} (ha : FramesSound policy a.frames)
    (hg : goal.SoundAt policy a.depth) : (conclude goal a value).outcome.Sound policy := by
  have refused : ∀ error, (reject goal error a).outcome.Sound policy :=
    fun error => reject_sound error ha hg
  unfold conclude
  split
  · split
    · exact ⟨soundAt_text, trivial⟩
    · trivial
    · exact refused _
  · split
    · exact ⟨OpenAt.append hg soundAt_text, ha⟩
    · exact ⟨hg, ha⟩
    · exact refused _
  · obtain ⟨allowed, named⟩ := hg
    split
    · exact deliver_sound ha ((OpenAt.new allowed named).setText _).toNode
    · exact ⟨.new allowed named, ha⟩
    · exact ⟨.new allowed named, ha⟩
    · exact refused _
  · exact apply_sound ha hg
  · split
    · exact merge_sound ha (OpenAt.setStyle hg _)
    · exact refused _

theorem takeNext_sound (ha : FramesSound policy a.frames) :
    (takeNext policy a).outcome.Sound policy := by
  obtain ⟨frames, rest⟩ := a
  unfold takeNext
  dsimp only
  split
  · split
    · trivial
    · exact enter_sound ha
  · exact enter_sound ha
  · exact ⟨ha.1, ha.2⟩
  · exact deliver_sound ha.2 ha.1.toNode
  · split
    · exact ⟨ha.1, ha.2⟩
    · exact enter_sound ha
  · exact deliver_sound ha.2 ha.1.toNode

theorem await_sound {goal : Goal} {value : Pending} (ha : FramesSound policy a.frames)
    (hg : goal.SoundAt policy a.depth) : (await goal a value).outcome.Sound policy := by
  unfold await
  split
  · exact ⟨hg, ha⟩
  · exact ⟨hg, ha⟩
  · exact reject_sound _ ha hg
  · exact ⟨hg, ha⟩
  · exact ⟨hg, ha⟩

theorem step_sound {s : State} (h : s.Sound policy) : (step policy s).outcome.Sound policy := by
  unfold step
  split
  · exact conclude_sound h.2 h.1
  · exact h
  · exact await_sound h.2 h.1
  · exact takeNext_sound h
  · trivial

/-! ## Whole courses -/

theorem pollFrom_sound (done : List Event) {s : State} (h : s.Sound policy) :
    (pollFrom policy done s).state.Sound policy ∧
      ∀ n, (pollFrom policy done s).answer = .node n → SoundAt policy 0 n := by
  fun_induction pollFrom policy done s with
  | case1 done s events s' hs _ ih =>
    have sound := step_sound h
    rw [hs] at sound
    exact ih sound
  | case2 done s events s' hs =>
    have sound := step_sound h
    rw [hs] at sound
    exact ⟨sound, fun n hn => by cases hn⟩
  | case3 done s events node s' hs =>
    have sound := step_sound h
    rw [hs] at sound
    refine ⟨sound.2, fun n hn => ?_⟩
    obtain rfl : node = n := by simpa using hn
    exact sound.1
  | case4 done s events hs => exact ⟨trivial, fun n hn => by cases hn⟩

/-- Deciding a gate touches no open element. -/
theorem State.Sound.decide {s : State} (h : s.Sound policy) (gate : Nat) (d : Decision) :
    (s.decide gate d).Sound policy := by
  have frames : ∀ {fs : List Frame}, FramesSound policy fs →
      FramesSound policy (fs.map (·.decide gate d)) := by
    intro fs hfs
    induction fs with
    | nil => trivial
    | cons f outer ih =>
      refine ⟨?_, ih hfs.2⟩
      rw [List.length_map]
      cases f <;> exact hfs.1
  have goal : ∀ {goal : Goal} {a : Around}, goal.SoundAt policy a.depth →
      (goal.decide gate d).SoundAt policy (a.decide gate d).depth := by
    intro goal a hg
    rw [Around.depth, Around.decide, List.length_map]
    cases goal <;> exact hg
  cases s with
  | resolving g source a => exact ⟨goal h.1, frames h.2⟩
  | awaiting g value a => exact ⟨goal h.1, frames h.2⟩
  | next a => exact frames h
  | finished => trivial

/-- The nodes yielded so far are sound, and so is what is left to do. -/
structure Course.Sound (policy : Policy) (c : Course) : Prop where
  same_policy : c.stream.policy = policy
  state : c.stream.state.Sound policy
  nodes : ∀ n ∈ c.nodes, SoundAt policy 0 n

theorem Course.Sound.poll {c : Course} (h : c.Sound policy) : c.poll.Sound policy := by
  have polled := pollFrom_sound [] h.state
  rw [← h.same_policy] at polled
  refine ⟨h.same_policy, ?_, fun n hn => ?_⟩
  · rw [← h.same_policy]
    exact polled.1
  · rw [Course.nodes, Course.poll, List.filterMap_append] at hn
    rcases List.mem_append.mp hn with hn | hn
    · exact h.nodes n hn
    · obtain ⟨answer, hanswer, hn⟩ := List.mem_filterMap.mp hn
      rw [List.mem_singleton] at hanswer
      rw [← h.same_policy]
      refine polled.2 n ?_
      cases answer <;> simp_all [Answer.node?, Stream.poll]

theorem course_sound (policy : Policy) (source : Source) (moves : List Move) :
    (course policy source moves).Sound policy := by
  refine course_induction ⟨rfl, ⟨trivial, trivial⟩, nofun⟩ fun c hc m _ => ?_
  unfold Course.move
  split
  · exact hc.poll
  · unfold Course.decide
    split
    · exact hc
    · exact ⟨hc.same_policy, hc.state.decide _ _, hc.nodes⟩

theorem remaining_sound {s : State} (h : s.Sound policy) :
    ∀ n ∈ s.remaining policy, SoundAt policy 0 n := by
  fun_induction State.remaining policy s with
  | case1 s below s' hs _ ih =>
    have sound := step_sound h
    rw [hs] at sound
    exact ih sound
  | case2 s below s' hs hb => nofun
  | case3 s below s' hs hb _ ih =>
    have sound := step_sound h
    rw [hs] at sound
    exact ih sound
  | case4 s below node s' hs _ ih =>
    have sound := step_sound h
    rw [hs] at sound
    intro n hn
    rcases List.mem_cons.mp hn with rfl | hn
    · exact sound.1
    · exact ih sound.2 n hn
  | case5 s below hs => nofun

/-- The nodes of a rendering: those yielded in some course, and those collected at once. -/
def Rendered (policy : Policy) (source : Source) (n : Node) : Prop :=
  (∃ moves, n ∈ (course policy source moves).nodes) ∨ n ∈ renderNodes policy source

theorem Rendered.sound {source : Source} {n : Node} (h : Rendered policy source n) :
    SoundAt policy 0 n := by
  rcases h with ⟨moves, h⟩ | h
  · exact (course_sound policy source moves).nodes n h
  · have start : (State.start source).Sound policy := ⟨trivial, trivial⟩
    rw [renderNodes_eq_remaining] at h
    exact remaining_sound start n h

/-- **Only admissible elements are rendered.** An element that stands below exactly `k` others in a
node of a rendering passes the policy at depth `k` and has proper names; so no chain of elements is
longer than the deepest level and one more. -/
theorem admissible_of_rendered (policy : Policy) (source : Source) (n : Node)
    (hn : Rendered policy source n) :
    (∀ (k : Nat) (tag : String) (attributes : Fields String), Stands tag attributes k n →
      policy.check tag k = .ok () ∧
      (∀ tags, policy.excluded = some tags → tags.contains tag = false) ∧
      (∀ tags, policy.included = some tags → tags.isEmpty = false → tags.contains tag = true) ∧
      (∀ maxDepth, policy.maxDepth = some maxDepth → k ≤ maxDepth) ∧
      Text.isName tag = true ∧
      ∀ name ∈ attributes.names, Text.isName name = true ∧ name ≠ "text" ∧ name ≠ "style") ∧
    ∀ maxDepth, policy.maxDepth = some maxDepth → n.nesting ≤ maxDepth + 1 := by
  have admissible : ∀ (k : Nat) (tag : String) (attributes : Fields String),
      Stands tag attributes k n → Admissible policy k tag attributes := by
    intro k tag attributes hs
    have h := hn.sound k tag attributes hs
    rwa [Nat.zero_add] at h
  refine ⟨fun k tag attributes hs => ?_, fun maxDepth hmax => ?_⟩
  · have h := admissible k tag attributes hs
    obtain ⟨excluded, included, depth⟩ := Policy.check_eq_ok_iff.mp h.allowed
    exact ⟨h.allowed, excluded, included, depth, h.named, h.attributes⟩
  · cases hnest : n.nesting with
    | zero => exact Nat.zero_le _
    | succ k =>
      obtain ⟨tag, attributes, hs⟩ := Node.exists_stands hnest
      obtain ⟨-, -, depth⟩ := Policy.check_eq_ok_iff.mp (admissible k tag attributes hs).allowed
      exact Nat.succ_le_succ (depth maxDepth hmax)

/-- A paragraph that is an entry of a list. -/
def listedParagraph : Source :=
  .mapping [("div", .list [.pending (.deferred none 1
    (.mapping [("p", .mapping [("$id", .text "first")])]))])]

def listedParagraphNode : Node :=
  .element "div" .empty .empty [.element "p" (Fields.empty.set "id" "first") .empty []]

/-- The paragraph stands below one other element and has been let through at depth 1. -/
theorem admissible_listedParagraph :
    Rendered .standard listedParagraph listedParagraphNode ∧
      Stands "p" (Fields.empty.set "id" "first") 1 listedParagraphNode ∧
      Policy.standard.check "p" 1 = .ok () ∧ listedParagraphNode.nesting ≤ 257 := by
  have rendered : Rendered .standard listedParagraph listedParagraphNode := by
    refine .inr ?_
    have noGates : NoGates (listedParagraph.mentions ·) := fun g => rfl
    rw [renderNodes_eq_fragment noGates]
    exact List.mem_singleton.mpr rfl
  have stands : Stands "p" (Fields.empty.set "id" "first") 1 listedParagraphNode :=
    .within List.mem_cons_self .here
  obtain ⟨admissible, nesting⟩ := admissible_of_rendered .standard _ _ rendered
  exact ⟨rendered, stands, (admissible _ _ _ stands).1, nesting _ rfl⟩

end Render

end JsonMarkup
