import JsonMarkup.Render.Course
import Mathlib.Data.List.Induction
import Mathlib.Logic.Function.Iterate

/-!
# What holds along a course

Courses grow move by move, so what holds at the beginning and is kept by every move holds of all of
them (`course_induction`). Gathering makes no moves but polls (`gather_eq_poll`), which yield nodes
until the rendering has to wait or has ended (`answers_gather`), and a whole rendering is collected
by gathering again and again (`collectFrom_gather`).
-/

namespace JsonMarkup.Render

/-- The gate is decided by one of the moves. -/
def DecidedBy (moves : List Move) (gate : Nat) : Prop :=
  ∃ m ∈ moves, ∃ d, m.decision? = some (gate, d)

theorem course_concat (policy : Policy) (source : Source) (moves : List Move) (m : Move) :
    course policy source (moves ++ [m]) = (course policy source moves).move m := by
  rw [course, List.foldl_append]
  rfl

/-- What holds at the beginning and is kept by every move holds after any moves. -/
theorem course_induction {policy : Policy} {source : Source} {P : Course → Prop}
    {moves : List Move} (start : P (.start policy source))
    (move : ∀ c, P c → ∀ m ∈ moves, P (c.move m)) : P (course policy source moves) := by
  induction moves using List.reverseRecOn with
  | nil => exact start
  | append_singleton moves m ih =>
    rw [course_concat]
    refine move _ (ih fun c hc m' hm' => move c hc m' ?_) m ?_
    · exact List.mem_append_left _ hm'
    · exact List.mem_append_right _ (List.mem_singleton_self m)

theorem course_polls (policy : Policy) (source : Source) (moves : List Move) (n : Nat) :
    course policy source (moves ++ List.replicate n .poll) =
      Course.poll^[n] (course policy source moves) := by
  induction n with
  | zero => simp
  | succ n ih =>
    rw [List.replicate_succ', ← List.append_assoc, course_concat, ih,
      Function.iterate_succ_apply']
    rfl

/-! ## Gathering -/

namespace Course

theorem pollFrom_of_answer {c : Course} {a : Answer} (h : c.stream.poll.answer = a) :
    pollFrom c.stream.policy [] c.stream.state =
      ⟨a, c.stream.poll.events, c.poll.stream.state⟩ := by
  rw [← h]
  rfl

theorem poll_nodes (c : Course) : c.poll.nodes = c.nodes ++ c.stream.poll.answer.node?.toList := by
  rw [nodes, nodes, poll, List.filterMap_append]
  cases c.stream.poll.answer <;> rfl

theorem policy_gather (c : Course) : c.gather.stream.policy = c.stream.policy := by
  fun_induction gather c with
  | case1 c n h _ ih => exact ih
  | case2 c h => rfl

/-- Gathering polls, and does nothing else. -/
theorem gather_eq_poll (c : Course) : ∃ n, c.gather = Course.poll^[n] c := by
  fun_induction gather c with
  | case1 c n h _ ih =>
    obtain ⟨k, polled⟩ := ih
    exact ⟨k + 1, polled⟩
  | case2 c h => exact ⟨1, rfl⟩

/-- Gathering yields nodes until the rendering has to wait, or to its end. -/
theorem answers_gather (c : Course) : ∃ (nodes : List Node) (last : Answer),
    c.gather.answers = c.answers ++ nodes.map .node ++ [last] ∧
      (last = .pending ∨ last = .ended) := by
  fun_induction gather c with
  | case1 c n h _ ih =>
    obtain ⟨nodes, last, answers, stops⟩ := ih
    have yielded : c.poll.answers = c.answers ++ [.node n] := by rw [← h]; rfl
    refine ⟨n :: nodes, last, ?_, stops⟩
    rw [answers, yielded, List.map_cons, ← List.append_cons]
  | case2 c h =>
    refine ⟨[], c.stream.poll.answer, (List.append_nil c.answers).symm ▸ rfl, ?_⟩
    cases answer : c.stream.poll.answer with
    | pending => exact .inl rfl
    | node n => exact absurd answer (h n)
    | ended => exact .inr rfl

/-- Gathering takes a rendering to its end, to a gate, or to where it is collected further. -/
theorem collectFrom_gather (c : Course) (events : List Event) :
    ∃ events', collectFrom c.stream.policy c.nodes.reverse events c.stream.state =
      if c.gather.hasEnded then ⟨c.gather.nodes, events', none⟩
      else if c.gather.waitsFor?.isSome then ⟨c.gather.nodes, events', c.gather.waitsFor?⟩
      else collectFrom c.stream.policy c.gather.nodes.reverse events' c.gather.stream.state := by
  fun_induction gather c generalizing events with
  | case1 c n h _ ih =>
    obtain ⟨events', further⟩ := ih (c.stream.poll.events.reverse ++ events)
    rw [poll_nodes, h, List.reverse_append] at further
    refine ⟨events', Eq.trans ?_ further⟩
    rw [collectFrom_eq, pollFrom_of_answer h]
    rfl
  | case2 c h =>
    have last := c.last_poll
    rw [collectFrom_eq, poll_nodes]
    cases answer : c.stream.poll.answer with
    | pending =>
      rw [answer] at last
      have going : c.poll.hasEnded = false := by rw [hasEnded, last]
      have gate : c.poll.waitsFor? = c.poll.stream.state.blockedOn? := rfl
      rw [pollFrom_of_answer answer, going, gate]
      simp only [Answer.node?, Option.toList_none, List.append_nil, List.reverse_reverse]
      split
      · exact ⟨_, rfl⟩
      · exact ⟨_, rfl⟩
    | node n => exact absurd answer (h n)
    | ended =>
      rw [answer] at last
      rw [pollFrom_of_answer answer, hasEnded_iff.mpr last]
      simp only [Answer.node?, Option.toList_none, List.append_nil, List.reverse_reverse]
      exact ⟨_, rfl⟩

end Course

end JsonMarkup.Render
