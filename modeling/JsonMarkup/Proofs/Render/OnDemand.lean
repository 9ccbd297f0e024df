import JsonMarkup.Proofs.Render.Transparency
import JsonMarkup.Proofs.Render.Walk
import Mathlib.Algebra.GroupWithZero.Nat

/-!
# Pending values are waited for on demand

A rendering waits for one pending value at a time, in document order, and for none that its document
does not call for. This holds for every document, every policy, and every course of polls and
decisions.

**Theorem (`waits_on_demand`).** Let the wanted pending values of the document, as it has been
decided so far, stand in document order.

- What has happened to pending values so far is the beginning of: each of them starts and ends, one
  after the other. At the end of the rendering it is all of that.
- So at no moment has more than one been started that has not ended.
- A poll gets no further than the first entry of the document whose node had not been yielded
  before.
- A poll that answers that it is pending has polled one pending value in vain, once. Without gates,
  the number of such polls is therefore the number of polls in vain that the wanted pending values
  take.
-/

namespace JsonMarkup

/-! ## Marks of pending values -/

def Mark.event? : Mark → Option Event
  | .event e => some e
  | _ => none

/-- The starts and ends among marks. -/
def pendingEvents (ms : List Mark) : List Event := ms.filterMap Mark.event?

/-- A pending value starts and ends. -/
def Wait.log (w : Wait) : List Event := [.started w.pending.label, w.pending.ending]

theorem ne_node_of_mem_lives {ws : List Wait} {m : Mark} (h : m ∈ lives ws) : m ≠ .node := by
  obtain ⟨w, -, hm⟩ := List.mem_flatMap.mp h
  rintro rfl
  simp [Pending.life, Pending.toCome] at hm

theorem pendingEvents_append (ms ns : List Mark) :
    pendingEvents (ms ++ ns) = pendingEvents ms ++ pendingEvents ns :=
  List.filterMap_append

theorem pendingEvents_lives (ws : List Wait) : pendingEvents (lives ws) = ws.flatMap Wait.log := by
  have one : ∀ p : Pending, pendingEvents p.life = [.started p.label, p.ending] := by
    intro p
    have vain : pendingEvents (List.replicate p.yields .vain) = [] := by
      rw [pendingEvents, List.filterMap_replicate_of_none rfl]
    show .started p.label :: pendingEvents (List.replicate p.yields .vain ++ [.event p.ending]) = _
    rw [pendingEvents_append, vain]
    rfl
  induction ws with
  | nil => rfl
  | cons w rest ih =>
    rw [List.flatMap_cons, ← ih, lives, List.flatMap_cons, pendingEvents_append, one]
    rfl

theorem count_vain_lives (ws : List Wait) :
    (lives ws).count .vain = (ws.map fun w => w.pending.yields).sum := by
  induction ws with
  | nil => rfl
  | cons w rest ih =>
    rw [List.map_cons, List.sum_cons, ← ih, lives, List.flatMap_cons, List.count_append]
    simp [Pending.life, Pending.toCome, lives]

/-- Marks without those of nodes. -/
def unyielded (ms : List Mark) : List Mark := ms.filter (· ≠ .node)

theorem pendingEvents_unyielded (ms : List Mark) :
    pendingEvents (unyielded ms) = pendingEvents ms := by
  induction ms with
  | nil => rfl
  | cons m rest ih =>
    cases m with
    | event e => exact congrArg (e :: ·) ih
    | vain => exact ih
    | node => exact ih

theorem count_vain_unyielded (ms : List Mark) :
    (unyielded ms).count .vain = ms.count .vain := List.count_filter rfl

theorem unyielded_lives (ws : List Wait) : unyielded (lives ws) = lives ws :=
  List.filter_eq_self.mpr fun _ hm => decide_eq_true (ne_node_of_mem_lives hm)

/-! ## One at a time -/

def Event.starts : Event → Bool
  | .started _ => true
  | _ => false

/-- The event is the end of a pending value: it has settled or failed. -/
def Event.ends : Event → Bool
  | .settled _ | .failed _ => true
  | _ => false

/-- No pending value ends before it starts, and at most one has been started that has not ended. -/
def AtMostOneStarted (events : List Event) : Prop :=
  events.countP Event.ends ≤ events.countP Event.starts ∧
    events.countP Event.starts ≤ events.countP Event.ends + 1

theorem atMostOneStarted_of_beginning {ws : List Wait} {events : List Event}
    (h : events <+: ws.flatMap Wait.log) : AtMostOneStarted events := by
  induction ws generalizing events with
  | nil =>
    rw [List.prefix_nil.mp h]
    exact ⟨Nat.le_refl 0, Nat.zero_le 1⟩
  | cons w rest ih =>
    have start : (Event.started w.pending.label).ends = false ∧
        (Event.started w.pending.label).starts = true := ⟨rfl, rfl⟩
    have ending : w.pending.ending.ends = true ∧ w.pending.ending.starts = false := by
      cases w.pending <;> exact ⟨rfl, rfl⟩
    rw [List.flatMap_cons] at h
    cases events with
    | nil => exact ⟨Nat.le_refl 0, Nat.zero_le 1⟩
    | cons e events =>
      obtain ⟨rfl, afterStart⟩ := List.cons_prefix_cons.mp h
      cases events with
      | nil => exact ⟨Nat.zero_le 1, Nat.le_refl 1⟩
      | cons e events =>
        obtain ⟨rfl, afterEnd⟩ := List.cons_prefix_cons.mp afterStart
        have inRest := ih afterEnd
        simp only [AtMostOneStarted, List.countP_cons, start, ending] at inRest ⊢
        simp only [if_true, Bool.false_eq_true, if_false]
        omega

/-- Starts and ends of pending values are all that counts. -/
theorem atMostOneStarted_filter {events : List Event}
    (h : AtMostOneStarted (events.filter Event.concernsPending)) : AtMostOneStarted events := by
  have starts : events.countP Event.starts =
      (events.filter Event.concernsPending).countP Event.starts := by
    rw [List.countP_filter]
    congr 1
    funext e
    cases e <;> rfl
  have ends : events.countP Event.ends =
      (events.filter Event.concernsPending).countP Event.ends := by
    rw [List.countP_filter]
    congr 1
    funext e
    cases e <;> rfl
  rw [AtMostOneStarted, starts, ends]
  exact h

/-! ## The script of a document -/

variable {policy : Policy}

theorem unyielded_settling (s : Source) : unyielded s.settling = s.settling := by
  refine List.filter_eq_self.mpr fun m hm => decide_eq_true ?_
  have within : m ∈ s.script .standard .property := by
    rw [script_eq]
    exact List.mem_append_left _ hm
  exact ne_node_of_mem_lives within

theorem unyielded_documentScript (entries : List (String × Source)) :
    unyielded (documentScript policy entries) = entriesScript policy (.fragment 0) entries := by
  induction entries with
  | nil => rfl
  | cons e rest ih =>
    obtain ⟨tag, s⟩ := e
    have head : unyielded (entryScript policy (.fragment 0) tag s) =
        entryScript policy (.fragment 0) tag s := by
      rw [entryScript_tag]
      split
      · exact unyielded_lives _
      · rfl
    rw [entriesScript_cons, documentScript, unyielded, List.filter_append, ← unyielded, head, ← ih]
    rfl

namespace Render

theorem script_start (s : Source) : (State.start s).script policy =
    s.settling ++ Goal.document.script policy ⟨[], []⟩ s.outcome := rfl

/-- Apart from the nodes, what is to happen with a document is that each wanted pending value in it
is lived through. -/
theorem unyielded_script_start (s : Source) :
    unyielded ((State.start s).script policy) = lives (s.waits policy (.fragment 0)) := by
  have split : lives (s.waits policy (.fragment 0)) = _ := script_eq s
  rw [script_start, unyielded, List.filter_append, ← unyielded, ← unyielded, split,
    unyielded_settling]
  congr 1
  cases s.outcome with
  | error reason => rfl
  | ok v =>
    cases v with
    | mapping entries => exact unyielded_documentScript entries
    | _ => rfl

/-! ## The first entries of a document -/

end Render

mutual

/-- The document with only its first `n` entries. -/
def Source.upTo (n : Nat) : Source → Source
  | .ready v => .ready (v.upTo n)
  | .pending p => .pending (p.upTo n)

/-- The pending value, with only the first `n` entries of what it settles to. -/
def Pending.upTo (n : Nat) : Pending → Pending
  | .deferred label yields s => .deferred label yields (s.upTo n)
  | .failing label yields reason => .failing label yields reason
  | .gate id => .gate id

/-- The value, with only its first `n` entries if it is a mapping. -/
def Value.upTo (n : Nat) : Value → Value
  | .mapping entries => .mapping (entries.take n)
  | v => v

end

mutual

theorem settling_upTo (n : Nat) : ∀ s : Source, (s.upTo n).settling = s.settling
  | .ready _ => rfl
  | .pending p => settling_upTo_pending n p

theorem settling_upTo_pending (n : Nat) : ∀ p : Pending,
    (Source.pending (p.upTo n)).settling = (Source.pending p).settling
  | .deferred label yields s => by
    have inside := settling_upTo n s
    simp only [Pending.upTo, Source.settling, Pending.settling, inside]
    rfl
  | .failing _ _ _ => rfl
  | .gate _ => rfl

end

mutual

theorem outcome_upTo (n : Nat) : ∀ s : Source, (s.upTo n).outcome = s.outcome.map (Value.upTo n)
  | .ready _ => rfl
  | .pending p => outcome_upTo_pending n p

theorem outcome_upTo_pending (n : Nat) : ∀ p : Pending,
    (p.upTo n).outcome = p.outcome.map (Value.upTo n)
  | .deferred _ _ s => outcome_upTo n s
  | .failing _ _ _ => rfl
  | .gate _ => rfl

end

namespace Render

/-- A list that begins with all of `as` may go on differently. -/
theorem prefix_append_of {xs as bs cs : List Mark} (h : xs <+: as ++ bs)
    (further : ∀ ys, xs = as ++ ys → ys <+: bs → ys <+: cs) : xs <+: as ++ cs := by
  rcases List.prefix_or_prefix_of_prefix h (List.prefix_append as bs) with short | ⟨ys, rfl⟩
  · exact short.trans (List.prefix_append as cs)
  · rw [List.prefix_append_right_inj] at h ⊢
    exact further ys rfl h

/-- Before the node of the entry number `k`, nothing happens in the entries behind it. -/
theorem prefix_documentScript_take {xs : List Mark} {k : Nat} {entries : List (String × Source)}
    (h : xs <+: documentScript policy entries) (few : xs.count .node ≤ k) :
    xs <+: documentScript policy (entries.take (k + 1)) := by
  induction entries generalizing xs k with
  | nil => exact h
  | cons e rest ih =>
    obtain ⟨tag, s⟩ := e
    rw [List.take_succ_cons, documentScript]
    refine prefix_append_of h fun ys hxs hys => ?_
    cases ys with
    | nil => exact List.nil_prefix
    | cons m ys =>
      obtain ⟨rfl, later⟩ := List.cons_prefix_cons.mp hys
      rw [hxs, List.count_append, List.count_cons_self] at few
      cases k with
      | zero => omega
      | succ k =>
        refine List.cons_prefix_cons.mpr ⟨rfl, ih later ?_⟩
        omega

theorem prefix_script_start_upTo {xs : List Mark} {k : Nat} {s : Source}
    (h : xs <+: (State.start s).script policy) (few : xs.count .node ≤ k) :
    xs <+: (State.start (s.upTo (k + 1))).script policy := by
  rw [script_start, settling_upTo, outcome_upTo]
  rw [script_start] at h
  refine prefix_append_of h fun ys hxs hys => ?_
  have fewer : ys.count .node ≤ k := by
    rw [hxs, List.count_append] at few
    omega
  cases ho : s.outcome with
  | error reason => rwa [ho] at hys
  | ok v =>
    rw [ho] at hys
    cases v with
    | mapping entries => exact prefix_documentScript_take hys fewer
    | _ => exact hys

/-! ## What every course keeps -/

/-- The answer is that a pending value is in the way. -/
def Answer.isPending : Answer → Bool
  | .pending => true
  | _ => false

namespace Course

/-- The document, as it has been decided so far. -/
def document (c : Course) (source : Source) : Source :=
  c.decided.foldr (fun e s => s.decide e.1 e.2) source

/-- The starts and ends of pending values so far, in order. -/
def pendingEvents (c : Course) : List Event := c.events.filter Event.concernsPending

/-- How many polls so far have answered that a pending value is in the way. -/
def pendingAnswers (c : Course) : Nat := c.answers.countP Answer.isPending

end Course

/-- What a course has done so far is a walk through its document. -/
structure Tracked (policy : Policy) (source : Source) (c : Course) (ms : List Mark) : Prop where
  same_policy : c.stream.policy = policy
  walks : Walks policy (.start (c.document source)) ms c.stream.state
  events : pendingEvents ms = c.pendingEvents
  nodes : ms.count .node = c.nodes.length
  ended : c.answers.getLast? = some .ended → c.stream.state = .finished
  /-- Without gates each answer that is pending stands for one poll of a pending value in vain. -/
  vain : c.decided = [] → NoGates (source.mentions ·) →
    NoGates (c.stream.state.mentions ·) ∧ ms.count .vain = c.pendingAnswers

theorem pendingEvents_pendingMarks (es : List Event) :
    pendingEvents (pendingMarks es) = es.filter Event.concernsPending := by
  rw [pendingEvents, pendingMarks, List.filterMap_map]
  exact List.filterMap_some

theorem count_node_pendingMarks (es : List Event) : (pendingMarks es).count .node = 0 := by
  simp [pendingMarks, List.count_eq_zero]

theorem count_vain_pendingMarks (es : List Event) : (pendingMarks es).count .vain = 0 := by
  simp [pendingMarks, List.count_eq_zero]

theorem tracked_start (policy : Policy) (source : Source) :
    Tracked policy source (.start policy source) [] where
  same_policy := rfl
  walks := .here
  events := rfl
  nodes := rfl
  ended := nofun
  vain := fun _ free => by
    refine ⟨fun g => ?_, rfl⟩
    simpa [Course.start, Stream.ofSource, State.start, State.mentions, Goal.mentions,
      Around.mentions, entriesMention] using free g

variable {source : Source} {c : Course} {ms : List Mark}

theorem Tracked.poll_eq (h : Tracked policy source c ms) :
    c.stream.poll = pollFrom policy [] c.stream.state := by
  rw [Stream.poll, h.same_policy]

theorem Tracked.poll (h : Tracked policy source c ms) :
    Tracked policy source c.poll (ms ++ c.stream.poll.marks) where
  same_policy := h.same_policy
  walks := by
    show Walks policy _ _ c.stream.poll.state
    rw [h.poll_eq]
    refine walks_pollFrom ?_
    show Walks policy _ (ms ++ []) _
    rw [List.append_nil]
    exact h.walks
  events := by
    have answer : ∀ (a : Answer) (s : State), pendingEvents (a.marks s) = [] := by
      intro a s
      cases a with
      | pending =>
        rw [Answer.marks]
        split <;> rfl
      | _ => rfl
    rw [pendingEvents_append, Polled.marks, pendingEvents_append, pendingEvents_pendingMarks,
      answer, List.append_nil, h.events]
    exact (List.filter_append ..).symm
  nodes := by
    have answer : ∀ (a : Answer) (s : State),
        (a.marks s).count .node = (List.filterMap Answer.node? [a]).length := by
      intro a s
      cases a with
      | pending =>
        rw [Answer.marks]
        split <;> rfl
      | _ => rfl
    rw [List.count_append, Polled.marks, List.count_append, count_node_pendingMarks, Nat.zero_add,
      answer _ c.stream.poll.state, h.nodes, ← List.length_append, Course.nodes,
      ← List.filterMap_append]
    rfl
  ended := fun last => by
    have below := pollFrom_below policy [] c.stream.state
    rw [← h.poll_eq] at below
    have answer : c.stream.poll.answer = .ended := by
      simpa [Course.poll] using last
    rw [Polled.Below, answer] at below
    exact eq_finished_of_isFinished below
  vain := fun undecided free => by
    obtain ⟨stateFree, count⟩ := h.vain undecided free
    have left : NoGates (c.poll.stream.state.mentions ·) := by
      intro g
      rw [Bool.eq_false_iff]
      intro stands
      exact absurd (mentions_pollFrom stands) (by simp [stateFree g])
    have unblocked : c.stream.poll.state.blockedOn? = none := by
      cases hb : c.stream.poll.state.blockedOn? with
      | none => rfl
      | some g =>
        have stands : c.poll.stream.state.mentions g = true := mentions_of_blockedOn hb
        exact absurd stands (by simp [left g])
    refine ⟨left, ?_⟩
    have answer : (c.stream.poll.answer.marks c.stream.poll.state).count .vain =
        [c.stream.poll.answer].countP Answer.isPending := by
      cases c.stream.poll.answer with
      | pending =>
        rw [Answer.marks, unblocked]
        rfl
      | _ => rfl
    rw [List.count_append, Polled.marks, List.count_append, count_vain_pendingMarks, Nat.zero_add,
      answer, count, Course.pendingAnswers, ← List.countP_append]
    rfl

theorem Tracked.decide (h : Tracked policy source c ms) (gate : Nat) (d : Decision) :
    Tracked policy source (c.decide gate d) ms := by
  unfold Course.decide
  split
  · exact h
  · exact {
      same_policy := h.same_policy
      walks := h.walks.decide gate (replay c.decided d)
      events := h.events
      nodes := h.nodes
      ended := fun last => congrArg (State.decide gate _) (h.ended last)
      vain := nofun }

theorem Tracked.move (h : Tracked policy source c ms) (m : Move) :
    ∃ ms, Tracked policy source (c.move m) ms := by
  unfold Course.move
  split
  · exact ⟨_, h.poll⟩
  · exact ⟨_, h.decide _ _⟩

theorem tracked_course (policy : Policy) (source : Source) (moves : List Move) :
    ∃ ms, Tracked policy source (course policy source moves) ms := by
  refine course_induction (P := fun c => ∃ ms, Tracked policy source c ms)
    ⟨_, tracked_start policy source⟩ ?_
  rintro c ⟨ms, h⟩ m -
  exact h.move m

/-! ## The theorem -/

/-- The wanted pending values of a document, in document order: each is in the list, nothing else
is, the paths increase, and what a value settles to comes right after it. -/
structure InDocumentOrder (policy : Policy) (document : Source) (ws : List Wait) : Prop where
  mem : ∀ w, w ∈ ws ↔ Wanted policy (.fragment 0) document w
  ordered : Ordered ws
  chained : Chained ws

theorem inDocumentOrder_waits (policy : Policy) (document : Source) :
    InDocumentOrder policy document (document.waits policy (.fragment 0)) :=
  ⟨fun _ => mem_waits, ordered_waits document, chained_waits document⟩

theorem pendingEvents_script_start (s : Source) :
    pendingEvents ((State.start s).script policy) =
      (s.waits policy (.fragment 0)).flatMap Wait.log := by
  rw [← pendingEvents_unyielded, unyielded_script_start, pendingEvents_lives]

/-- What has happened to pending values stands at the front of the script. -/
theorem Tracked.atFront (h : Tracked policy source c ms) :
    ms <+: (State.start (c.document source)).script policy := ⟨_, h.walks.script⟩

/-- A further move gets no further than the node of the next entry. -/
theorem Tracked.reach (h : Tracked policy source c ms) (m : Move) :
    (c.move m).pendingEvents <+:
      ((((c.move m).document source).upTo (c.nodes.length + 1)).waits policy (.fragment 0)).flatMap
        Wait.log := by
  obtain ⟨qs, hqs, events, few⟩ : ∃ qs,
      qs <+: (State.start ((c.move m).document source)).script policy ∧
      pendingEvents qs = (c.move m).pendingEvents ∧ qs.count .node ≤ c.nodes.length := by
    unfold Course.move
    split
    · -- The node that the poll may yield comes after all that it has done.
      refine ⟨ms ++ pendingMarks c.stream.poll.events, ?_, ?_, ?_⟩
      · refine List.IsPrefix.trans ?_ h.poll.atFront
        rw [Polled.marks, ← List.append_assoc]
        exact List.prefix_append _ _
      · rw [pendingEvents_append, pendingEvents_pendingMarks, h.events]
        exact (List.filter_append ..).symm
      · rw [List.count_append, count_node_pendingMarks, Nat.add_zero, h.nodes]
    · have decided := h.decide
      refine ⟨ms, (decided _ _).atFront, (decided _ _).events, h.nodes.le⟩
  rw [← events, ← pendingEvents_script_start]
  exact (prefix_script_start_upTo hqs few).filterMap _

theorem Tracked.begins_lives (h : Tracked policy source c ms) :
    c.pendingEvents <+:
      ((c.document source).waits policy (.fragment 0)).flatMap Wait.log := by
  rw [← h.events, ← pendingEvents_script_start]
  exact h.atFront.filterMap _

/-- At the end all that was to happen has happened. -/
theorem Tracked.eq_script (h : Tracked policy source c ms) (ended : c.stream.state = .finished) :
    ms = (State.start (c.document source)).script policy := by
  have split := h.walks.script
  rw [ended] at split
  rw [← split]
  exact (List.append_nil ms).symm

theorem decided_polls (policy : Policy) (source : Source) (n : Nat) :
    (course policy source (List.replicate n .poll)).decided = [] := by
  induction n with
  | zero => rfl
  | succ n ih =>
    rw [List.replicate_succ', course_concat]
    exact ih

/-- Without gates, polls come to the end. -/
theorem polls_end (policy : Policy) {source : Source} (free : NoGates (source.mentions ·)) :
    ∃ n, (course policy source (List.replicate n .poll)).answers.getLast? = some .ended := by
  let undecided : Decisions := fun _ => none
  have grounded : undecided.Grounded (source.mentions ·) := by
    intro g stands
    rw [free g] at stands
    cases stands
  have start := faithful_start (fun _ => .text "") policy grounded
  obtain ⟨n, -, last⟩ := start.reaches_end fun n g waits => by
    obtain ⟨ms, h⟩ := tracked_course policy source (List.replicate n .poll)
    have stands := mentions_of_blockedOn waits
    have stateFree := (h.vain (decided_polls policy source n) free).1 g
    rw [← List.nil_append (List.replicate n Move.poll), course_polls] at stateFree
    exact absurd stands (Bool.eq_false_iff.mp stateFree)
  refine ⟨n, ?_⟩
  rw [← List.nil_append (List.replicate n Move.poll), course_polls]
  exact last

/-- **Pending values are waited for on demand.** In turn: what happens to pending values is the
beginning of the lives of those that are wanted, in document order, and in the end all of them; at
no moment have two been started that have not ended; a move reaches no further than the first entry
whose node had not been yielded before it; a poll in vain is one of the single pending value that is
waited for; and without gates polls come to an end, and as many of them are in vain as the wanted
pending values take. -/
theorem waits_on_demand (policy : Policy) (source : Source) (moves : List Move) :
    let c := course policy source moves
    (∃ ws, InDocumentOrder policy (c.document source) ws ∧
      c.pendingEvents <+: ws.flatMap Wait.log ∧
      (c.answers.getLast? = some .ended → c.pendingEvents = ws.flatMap Wait.log)) ∧
    (∀ past, past <+: c.events → AtMostOneStarted past) ∧
    (∀ earlier m, moves = earlier ++ [m] →
      ∃ ws, InDocumentOrder policy
          ((c.document source).upTo ((course policy source earlier).nodes.length + 1)) ws ∧
        c.pendingEvents <+: ws.flatMap Wait.log) ∧
    (c.stream.poll.answer = .pending → ∃ goal p q a,
      Goes policy c.stream.state (.awaiting goal p a) ∧ p.polled? = some q ∧
        c.stream.poll.state = .awaiting goal q a) ∧
    (NoGates (source.mentions ·) → ∃ ws, InDocumentOrder policy source ws ∧
      (∃ n, (course policy source (List.replicate n .poll)).answers.getLast? = some .ended) ∧
      ∀ n, (course policy source (List.replicate n .poll)).answers.getLast? = some .ended →
        (course policy source (List.replicate n .poll)).pendingAnswers =
          (ws.map fun w => w.pending.yields).sum) := by
  intro c
  obtain ⟨ms, h⟩ : ∃ ms, Tracked policy source c ms := tracked_course policy source moves
  refine ⟨⟨_, inDocumentOrder_waits policy _, h.begins_lives, fun ended => ?_⟩,
    fun past hpast => ?_, fun earlier m hm => ?_, fun pending => ?_, fun free => ?_⟩
  · rw [← h.events, h.eq_script (h.ended ended), pendingEvents_script_start]
  · exact atMostOneStarted_filter
      (atMostOneStarted_of_beginning ((hpast.filter _).trans h.begins_lives))
  · obtain ⟨ms', h'⟩ := tracked_course policy source earlier
    have hc : c = (course policy source earlier).move m := by
      rw [← course_concat, ← hm]
    rw [hc]
    exact ⟨_, inDocumentOrder_waits policy _, h'.reach m⟩
  · rw [h.poll_eq] at pending ⊢
    exact pollFrom_pending pending
  · refine ⟨_, inDocumentOrder_waits policy source, polls_end policy free, fun n ended => ?_⟩
    obtain ⟨ms', h'⟩ := tracked_course policy source (List.replicate n .poll)
    have undecided := decided_polls policy source n
    rw [← (h'.vain undecided free).2, h'.eq_script (h'.ended ended), ← count_vain_unyielded,
      unyielded_script_start, count_vain_lives, Course.document, undecided]
    rfl

end Render
end JsonMarkup
