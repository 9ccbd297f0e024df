import JsonMarkup.Proofs.Render.Content
import JsonMarkup.Proofs.Render.OnDemand

/-!
# Siblings are independent

The entries of a document are rendered one after the other, with polls in between, and so are the
entries of a list, whose nodes are gathered in the element around them. No entry sees another one:
each yields what it yields on its own.

**Schedules** (`nodes_course`). The nodes of a rendering that has come to its end are those of the
document that all decisions have been put into, with every pending position replaced by its final
outcome (`Course.settled`). A gate that is left has not been waited for, and may have any outcome.

**Theorem (`siblings_independent`).** The entries of a document yield one node each, an element with
the key for its tag or an error node, and documents that are put together yield their nodes put
together. The element of a list holds what each entry yields on its own, one level deeper.
-/

namespace JsonMarkup

/-! ## Final outcomes hold no gates -/

section

variable {Ω : Outcomes} {g : Nat}

mutual

theorem Source.mentions_final (hΩ : ∀ id, (Ω id).mentions g = false) :
    ∀ s : Source, (s.final Ω).mentions g = false
  | .ready v => v.mentions_final hΩ
  | .pending p => p.mentions_final hΩ

theorem Pending.mentions_final (hΩ : ∀ id, (Ω id).mentions g = false) :
    ∀ p : Pending, (p.final Ω).mentions g = false
  | .deferred _ _ s => s.mentions_final hΩ
  | .failing _ _ _ => rfl
  | .gate id => hΩ id

theorem Value.mentions_final (hΩ : ∀ id, (Ω id).mentions g = false) :
    ∀ v : Value, (v.final Ω).mentions g = false
  | .null | .boolean _ | .number _ | .text _ => rfl
  | .mapping entries => entriesMention_final hΩ entries
  | .list items => itemsMention_final hΩ items

theorem entriesMention_final (hΩ : ∀ id, (Ω id).mentions g = false) :
    ∀ entries : List (String × Source), entriesMention g (finalEntries Ω entries) = false
  | [] => rfl
  | (_, s) :: rest => by
    rw [finalEntries, entriesMention, s.mentions_final hΩ, entriesMention_final hΩ rest]
    rfl

theorem itemsMention_final (hΩ : ∀ id, (Ω id).mentions g = false) :
    ∀ items : List Source, itemsMention g (finalItems Ω items) = false
  | [] => rfl
  | s :: rest => by
    rw [finalItems, itemsMention, s.mentions_final hΩ, itemsMention_final hΩ rest]
    rfl

end

end

namespace Render

/-! ## Schedules -/

/-- The outcomes in which every gate is cancelled. -/
def allCancelled : Outcomes := fun _ => .pending (.failing none 0 cancelledReason)

/-- What a part of the document has come to: the decisions so far put into it, and every pending
position replaced by its final outcome, gates that are left by their cancellation. -/
def Course.settled (c : Course) (s : Source) : Source := (c.document s).final allCancelled

theorem noGates_settled (c : Course) (s : Source) : NoGates ((c.settled s).mentions ·) :=
  fun _ => Source.mentions_final (fun _ => rfl) _

theorem document_mapping (c : Course) (entries : List (String × Source)) :
    c.document (.mapping entries) = .mapping (rewriteEntries c.document entries) := by
  unfold Course.document
  induction c.decided with
  | nil => simp [rewriteEntries]
  | cons e decided ih =>
    rw [List.foldr_cons, ih, Source.mapping, Source.decide, Value.decide, decideEntries_eq_rewrite]
    simp [Source.mapping, rewriteEntries]

/-- What a mapping has come to is what its entries have come to. -/
theorem settled_mapping (c : Course) (entries : List (String × Source)) :
    c.settled (.mapping entries) = .mapping (rewriteEntries c.settled entries) := by
  rw [Course.settled, document_mapping, Source.mapping, Source.final, Value.final,
    finalEntries_eq_rewrite]
  simp [Source.mapping, rewriteEntries, Course.settled]

/-- However the gates have been decided so far: whatever becomes of those that are left, the nodes
so far are followed by those that come of the rest, and all are nodes of the decided document. -/
structure Foreseen (policy : Policy) (source : Source) (c : Course) : Prop where
  same_policy : c.stream.policy = policy
  nodes : ∀ Ω, c.nodes ++ (c.stream.state.final Ω).remaining policy =
    renderNodes policy ((c.document source).final Ω)

variable {policy : Policy} {source : Source}

theorem Foreseen.decide {c : Course} (h : Foreseen policy source c) (gate : Nat) (d : Decision) :
    Foreseen policy source (c.decide gate d) := by
  unfold Course.decide
  split
  · exact h
  · refine ⟨h.same_policy, fun Ω => ?_⟩
    -- To decide a gate is to know what becomes of it.
    have known := h.nodes (Function.update Ω gate ((replay c.decided d).final Ω))
    rw [← State.final_decide, ← Source.final_decide] at known
    exact known

theorem foreseen_course (policy : Policy) (source : Source) (moves : List Move) :
    Foreseen policy source (course policy source moves) := by
  have start : Foreseen policy source (.start policy source) :=
    ⟨rfl, fun Ω => (renderNodes_eq_remaining policy (source.final Ω)).symm⟩
  refine course_induction start fun c h m _ => ?_
  unfold Course.move
  split
  · exact ⟨h.same_policy, fun Ω => (Course.nodes_poll Ω h.same_policy).trans (h.nodes Ω)⟩
  · exact h.decide _ _

/-- **All nodes of a rendering** are those of what the document has come to. -/
theorem nodes_course {moves : List Move}
    (ended : (course policy source moves).answers.getLast? = some .ended) :
    (course policy source moves).nodes =
      renderNodes policy ((course policy source moves).settled source) := by
  obtain ⟨ms, tracked⟩ := tracked_course policy source moves
  have all := (foreseen_course policy source moves).nodes allCancelled
  rw [tracked.ended ended, State.final, remaining_finished, List.append_nil] at all
  exact all

/-! ## Nodes of tags -/

/-- A node may stand in the place of an entry under a key: it is an element with the key for its
tag, or an error node. A key that would name an attribute is no tag. -/
def StandsFor (key : String) (node : Node) : Prop :=
  ((∃ message, node = .error message) ∨
    ∃ attributes style children, node = .element key attributes style children) ∧
  ∀ name, key = "$" ++ name → ∃ message, node = .error message

variable {depth : Nat} {tag : String}

/-- An element keeps its tag while it is built. -/
theorem tag_built {e e' : Element} {entries : List (String × Source)}
    (h : built policy depth e entries = .ok e') : e'.tag = e.tag := by
  have kept : KeptBySetting fun changed => changed.tag = e.tag :=
    ⟨fun _ same => same, fun _ same => same, fun _ _ same => same, fun _ _ same => same⟩
  exact kept.built rfl (fun _ _ _ same => same) h

theorem valueContent_cases (v : Value) :
    (∃ message, v.content policy depth tag = .error message) ∨
      ∃ attributes style children,
        v.content policy depth tag = .element tag attributes style children := by
  cases v with
  | text text => exact .inr ⟨_, _, _, rfl⟩
  | list items => exact .inr ⟨_, _, _, rfl⟩
  | mapping entries =>
    rw [Value.content]
    cases h : built policy (depth + 1) (Element.new tag) entries with
    | error error => exact .inl ⟨_, rfl⟩
    | ok e =>
      have same : e.tag = tag := tag_built h
      exact .inr ⟨e.attributes, e.style, e.children.toList, by rw [finished, Element.toNode, same]⟩
  | _ => exact .inl ⟨_, rfl⟩

mutual

/-- The content of a position is that of the value it comes to. -/
theorem content_eq_outcome : ∀ s : Source, s.content policy depth tag =
    match s.outcome with
    | .ok v => v.content policy depth tag
    | .error reason => failed (.unresolved reason)
  | .ready _ => rfl
  | .pending p => content_eq_pendingOutcome p
termination_by structural s => s

theorem content_eq_pendingOutcome : ∀ p : Pending, p.content policy depth tag =
    match p.outcome with
    | .ok v => v.content policy depth tag
    | .error reason => failed (.unresolved reason)
  | .deferred _ _ s => content_eq_outcome s
  | .failing _ _ _ => rfl
  | .gate _ => rfl
termination_by structural p => p

end

theorem isName_sigil (name : String) : Text.isName ("$" ++ name) = false := by
  have start : Text.isNameStart '$' = false := by decide
  have sigil : "$".toList = ['$'] := by decide
  rw [Text.isName, String.toList_append, sigil, List.singleton_append, Text.isNameChars, start]
  rfl

theorem standsFor_tagNode (s : Source) : StandsFor tag (tagNode policy depth tag s) := by
  rw [tagNode, admitted]
  split
  · exact ⟨.inl ⟨_, rfl⟩, fun _ _ => ⟨_, rfl⟩⟩
  · split
    · rename_i named
      refine ⟨?_, ?_⟩
      · rw [content_eq_outcome]
        split
        · exact valueContent_cases _
        · exact .inl ⟨_, rfl⟩
      · rintro name rfl
        rw [isName_sigil] at named
        cases named
    · exact ⟨.inl ⟨_, rfl⟩, fun _ _ => ⟨_, rfl⟩⟩

theorem entriesNodes_eq_map (entries : List (String × Source)) :
    entriesNodes policy depth entries = entries.map fun e => tagNode policy depth e.1 e.2 := by
  induction entries with
  | nil => rfl
  | cons e rest ih =>
    rw [entriesNodes, ih]
    rfl

theorem itemsNodes_eq_flatten (items : List Source) :
    itemsNodes policy depth items = (items.map (Source.fragment policy depth)).flatten := by
  induction items with
  | nil => rfl
  | cons s rest ih =>
    rw [itemsNodes, ih]
    rfl

/-! ## Entries of a document -/

theorem renderNodes_mapping {entries : List (String × Source)}
    (noGates : NoGates (entriesMention · entries)) :
    renderNodes policy (.mapping entries) = entries.map fun e => tagNode policy 0 e.1 e.2 := by
  have free : NoGates ((Source.mapping entries).mentions ·) := noGates
  exact (renderNodes_eq_fragment free).trans (entriesNodes_eq_map entries)

/-- The nodes come of the entries of a document, one of each: what the entry yields on its own.
Parts of the document yield their parts of the nodes. -/
structure Independent (policy : Policy) (entries : List (String × Source)) (nodes : List Node) :
    Prop where
  each : List.Forall₂ (fun e node => renderNodes policy (.mapping [e]) = [node] ∧
    StandsFor e.1 node) entries nodes
  parts : ∀ xs ys, entries = xs ++ ys →
    nodes = renderNodes policy (.mapping xs) ++ renderNodes policy (.mapping ys)

theorem noGates_append {xs ys : List (String × Source)}
    (h : NoGates (entriesMention · (xs ++ ys))) :
    NoGates (entriesMention · xs) ∧ NoGates (entriesMention · ys) := by
  induction xs with
  | nil => exact ⟨fun _ => rfl, h⟩
  | cons e rest ih =>
    obtain ⟨here, later⟩ := noGates_entries_cons h
    refine ⟨fun g => Bool.or_eq_false_iff.mpr ⟨here g, (ih later).1 g⟩, (ih later).2⟩

theorem independent_renderNodes {entries : List (String × Source)}
    (noGates : NoGates (entriesMention · entries)) :
    Independent policy entries (renderNodes policy (.mapping entries)) := by
  refine ⟨?_, ?_⟩
  · rw [renderNodes_mapping noGates, List.forall₂_map_right_iff, List.forall₂_same]
    intro e he
    have alone : NoGates (entriesMention · [e]) :=
      fun g => Bool.or_eq_false_iff.mpr ⟨noGates_of_mem noGates he g, rfl⟩
    exact ⟨renderNodes_mapping alone, standsFor_tagNode e.2⟩
  · rintro xs ys rfl
    obtain ⟨first, second⟩ := noGates_append noGates
    rw [renderNodes_mapping noGates, renderNodes_mapping first, renderNodes_mapping second,
      List.map_append]

/-! ## Entries of a list -/

/-- Wherever a list below `depth` elements has this entry, the walk appends these nodes to the
element around the list and goes on to the next entry. -/
def Appends (policy : Policy) (depth : Nat) (s : Source) (nodes : List Node) : Prop :=
  ∀ (a : Around) (element : Element) (items : List Source), a.depth + 1 = depth →
    Leads policy (.goOn (.resolving (.item element items) s a))
      (.goOn (.next ⟨.spread (element.appendAll nodes) [] items :: a.frames, a.rest⟩))

/-- What an entry of a list yields: a mapping one node for each entry, as they are entered there,
and anything else one node. -/
def Yields (policy : Policy) (depth : Nat) (s : Source) (nodes : List Node) : Prop :=
  match s.outcome with
  | .ok (.mapping entries) => List.Forall₂ (fun e node => Renders policy depth e.1 e.2 node ∧
      StandsFor e.1 node) entries nodes
  | .ok (.text content) => nodes = [.text content]
  | _ => ∃ message, nodes = [.error message]

theorem appends_fragment {s : Source} (noGates : NoGates (s.mentions ·)) :
    Appends policy depth s (s.fragment policy depth) := by
  rintro a element items rfl
  exact leads_fragment noGates

theorem yields_fragment {s : Source} (noGates : NoGates (s.mentions ·)) :
    Yields policy depth s (s.fragment policy depth) := by
  rw [Yields, fragment_eq_outcome]
  cases h : s.outcome with
  | error reason => exact ⟨_, rfl⟩
  | ok v =>
    cases v with
    | mapping entries =>
      have inside : NoGates (entriesMention · entries) := noGates_outcome noGates h
      show List.Forall₂ _ entries (entriesNodes policy depth entries)
      rw [entriesNodes_eq_map, List.forall₂_map_right_iff, List.forall₂_same]
      intro e he
      exact ⟨renders_tagNode (noGates_of_mem inside he), standsFor_tagNode e.2⟩
    | text content => rfl
    | _ => exact ⟨_, rfl⟩

theorem noGates_of_mem_items {items : List Source} {s : Source}
    (h : NoGates (itemsMention · items)) (hmem : s ∈ items) : NoGates (s.mentions ·) := by
  induction items with
  | nil => cases hmem
  | cons first rest ih =>
    obtain ⟨hfirst, hrest⟩ := noGates_items_cons h
    rcases List.mem_cons.mp hmem with rfl | hmem
    · exact hfirst
    · exact ih hrest hmem

theorem tagNode_list {s : Source} {items : List Source} (allowed : policy.check tag depth = .ok ())
    (named : Text.isName tag = true) (list : s.outcome = .ok (.list items)) :
    tagNode policy depth tag s = .element tag Fields.empty Style.empty
      (items.map (Source.fragment policy (depth + 1))).flatten := by
  rw [tagNode, admitted, allowed, content_eq_outcome, list, ← itemsNodes_eq_flatten]
  exact if_pos named

/-! ## The theorem -/

/-- **Siblings are independent.** The nodes of a document are those of its entries, each on its own,
whether it is rendered as it is or in the course of a stream that has come to its end, with whatever
its entries have come to. A tag that is let through and whose value is a list renders to an element
that holds what the entries of the list append to it, one after the other. -/
theorem siblings_independent (policy : Policy) :
    (∀ entries, NoGates (entriesMention · entries) →
      Independent policy entries (renderNodes policy (.mapping entries))) ∧
    (∀ source moves entries,
      (course policy source moves).answers.getLast? = some .ended →
      (course policy source moves).settled source = .mapping entries →
      Independent policy entries (course policy source moves).nodes) ∧
    (∀ (c : Course) entries,
      c.settled (.mapping entries) = .mapping (entries.map fun e => (e.1, c.settled e.2))) ∧
    ∀ depth tag s items, policy.check tag depth = .ok () → Text.isName tag = true →
      NoGates (s.mentions ·) → s.outcome = .ok (.list items) →
      ∃ yielded, List.Forall₂ (fun item nodes => Appends policy (depth + 1) item nodes ∧
          Yields policy (depth + 1) item nodes) items yielded ∧
        Renders policy depth tag s (.element tag Fields.empty Style.empty yielded.flatten) := by
  refine ⟨fun entries noGates => independent_renderNodes noGates, ?_, settled_mapping, ?_⟩
  · intro source moves entries ended settled
    have noGates := noGates_settled (course policy source moves) source
    rw [nodes_course ended]
    rw [settled] at noGates ⊢
    exact independent_renderNodes noGates
  · intro depth tag s items allowed named noGates list
    refine ⟨items.map (Source.fragment policy (depth + 1)), ?_, ?_⟩
    · rw [List.forall₂_map_right_iff, List.forall₂_same]
      intro item hitem
      have inside : NoGates (item.mentions ·) :=
        noGates_of_mem_items (noGates_outcome noGates list) hitem
      exact ⟨appends_fragment inside, yields_fragment inside⟩
    · rw [← tagNode_list allowed named list]
      exact renders_tagNode noGates

/-- A document whose second entry is late; its first cannot be an element. -/
def lateDocument : Source := .mapping [("$id", .text "a"), ("p", .pending (.gate 0))]

/-- Polls up to its end, with the late entry settled when it has been polled in vain. -/
def lateMoves : List Move := [.poll, .poll, .settle 0 (.text "b"), .poll, .poll]

/-- A text, nothing at all, and something that cannot be rendered. -/
def mixedItems : List Source := [.text "a", .mapping [], .ready .null]

/-- Each entry has its node, and the list holds one of the text and one of the failure. -/
theorem siblings_lateDocument :
    let c := course .standard lateDocument lateMoves
    let entries := [("$id", Source.text "a"), ("p", Source.text "b")]
    NoGates (entriesMention · entries) ∧ c.answers.getLast? = some .ended ∧
      c.settled lateDocument = .mapping entries ∧
      (∃ message node, c.nodes = [.error message, node] ∧
        renderNodes .standard (.mapping [("p", .text "b")]) = [node]) ∧
      Policy.standard.check "ul" 1 = .ok () ∧ Text.isName "ul" = true ∧
      NoGates ((Source.list mixedItems).mentions ·) ∧
      ∃ message, Renders .standard 1 "ul" (.list mixedItems)
        (.element "ul" Fields.empty Style.empty [.text "a", .error message]) := by
  intro c entries
  obtain ⟨atOnce, late, -, lists⟩ := siblings_independent .standard
  have noGates : NoGates (entriesMention · entries) := fun _ => rfl
  have ended : c.answers.getLast? = some .ended := Course.hasEnded_iff.mp (by decide +kernel)
  have settled : c.settled lateDocument = .mapping entries := rfl
  have allowed : Policy.standard.check "ul" 1 = .ok () := rfl
  have named : Text.isName "ul" = true := by decide
  have free : NoGates ((Source.list mixedItems).mentions ·) := fun _ => rfl
  refine ⟨noGates, ended, settled, ?_, allowed, named, free, ?_⟩
  · obtain ⟨first, _, ⟨-, -, refused⟩, others, nodes⟩ := List.forall₂_cons_left_iff.mp
      (late lateDocument lateMoves entries ended settled).each
    obtain ⟨second, _, ⟨alone, -⟩, nothing, rfl⟩ := List.forall₂_cons_left_iff.mp others
    obtain rfl := List.forall₂_nil_left_iff.mp nothing
    obtain ⟨message, rfl⟩ := refused "id" rfl
    exact ⟨message, second, nodes, alone⟩
  · obtain ⟨yielded, each, renders⟩ :=
      lists 1 "ul" (.list mixedItems) mixedItems allowed named free rfl
    obtain ⟨_, _, ⟨-, text⟩, others, rfl⟩ := List.forall₂_cons_left_iff.mp each
    obtain ⟨_, _, ⟨-, none⟩, failing, rfl⟩ := List.forall₂_cons_left_iff.mp others
    obtain ⟨_, _, ⟨-, message, failure⟩, nothing, rfl⟩ := List.forall₂_cons_left_iff.mp failing
    obtain rfl := List.forall₂_nil_left_iff.mp nothing
    obtain rfl := List.forall₂_nil_left_iff.mp none
    cases text
    cases failure
    exact ⟨message, renders⟩

end Render

end JsonMarkup
