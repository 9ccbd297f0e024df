import JsonMarkup.Proofs.Render.Course
import JsonMarkup.Proofs.Render.Walk

/-!
# Renderings that never wait

A rendering waits for nothing but pending values. Where there are none, its script is a list of
nodes, and gathering them comes to the end.

**Theorem** (`gather_ofJson`). The document of a JSON tree is rendered without waiting, under every
policy.

A poll that answers that it is pending leaves a state that still has the end of a pending value in
its script, and what a poll leaves to do has been in the script before.
-/

namespace JsonMarkup

variable {policy : Policy}

/-! ## Trees want nothing -/

mutual

theorem waits_ofJson (role : Role) (j : Json) : (Source.ofJson j).waits policy role = [] := by
  cases j with
  | array items =>
    show (match role.inList? with
      | some inner => itemsWaits policy inner 0 (Source.ofJsonItems items)
      | none => []) = []
    cases role.inList? with
    | some inner => exact itemsWaits_ofJsonItems inner 0 items
    | none => rfl
  | object members => exact entriesWaits_ofJsonMembers role 0 members
  | _ => rfl

theorem itemsWaits_ofJsonItems (role : Role) (i : Nat) (items : List Json) :
    itemsWaits policy role i (Source.ofJsonItems items) = [] := by
  cases items with
  | nil => rfl
  | cons j rest =>
    rw [Source.ofJsonItems, itemsWaits, waits_ofJson role j,
      itemsWaits_ofJsonItems role (i + 1) rest]
    rfl

theorem entriesWaits_ofJsonMembers (role : Role) (i : Nat) (members : List (String × Json)) :
    entriesWaits policy role i (Source.ofJsonMembers members) = [] := by
  cases members with
  | nil => rfl
  | cons e rest =>
    obtain ⟨key, j⟩ := e
    rw [Source.ofJsonMembers, entriesWaits, entriesWaits_ofJsonMembers role (i + 1) rest, ite_self,
      List.append_nil]
    cases role.under? policy key with
    | some inner =>
      dsimp only
      rw [waits_ofJson inner j]
      rfl
    | none => rfl

end

/-- In the entries of a tree nothing happens but that their nodes are yielded. -/
theorem documentScript_ofJsonMembers (members : List (String × Json)) :
    ∀ m ∈ documentScript policy (Source.ofJsonMembers members), m = .node := by
  induction members with
  | nil => exact List.forall_mem_nil _
  | cons e rest ih =>
    obtain ⟨tag, j⟩ := e
    have inside : entryScript policy (.fragment 0) tag (Source.ofJson j) = [] := by
      rw [entryScript_tag, Source.script, waits_ofJson]
      exact ite_self _
    rw [Source.ofJsonMembers, documentScript, inside, List.nil_append]
    exact List.forall_mem_cons.mpr ⟨rfl, ih⟩

namespace Render

theorem script_start_ofJson (policy : Policy) (j : Json) :
    ∀ m ∈ (State.start (Source.ofJson j)).script policy, m = .node := by
  cases j with
  | object members => exact documentScript_ofJsonMembers members
  | _ => exact List.forall_mem_cons.mpr ⟨rfl, List.forall_mem_nil _⟩

/-! ## Polls -/

/-- A pending value that has been started has yet to end. -/
theorem ending_mem_settling (p : Pending) : .event p.ending ∈ p.settling := by
  cases p with
  | deferred label yields s =>
    exact List.mem_append_left _ (List.mem_append_right _ (List.mem_singleton.mpr rfl))
  | failing label yields reason => exact List.mem_append_right _ (List.mem_singleton.mpr rfl)
  | gate id => exact List.mem_append_right _ (List.mem_singleton.mpr rfl)

/-- What a poll leaves to do has been to do before. -/
theorem script_pollFrom_suffix (policy : Policy) (s : State) :
    (pollFrom policy [] s).state.script policy <:+ s.script policy := by
  have walk : Walks policy s ([] ++ (pollFrom policy [] s).marks) (pollFrom policy [] s).state :=
    walks_pollFrom .here
  exact ⟨_, walk.script⟩

theorem pollFrom_ne_pending {s : State} (nodes : ∀ m ∈ s.script policy, m = .node) :
    (pollFrom policy [] s).answer ≠ .pending := by
  intro pending
  obtain ⟨goal, p, q, a, -, -, left⟩ := pollFrom_pending pending
  have onward := script_pollFrom_suffix policy s
  rw [left] at onward
  have ends : .event q.ending ∈ (State.awaiting goal q a).script policy :=
    List.mem_append_left _ (ending_mem_settling q)
  cases nodes _ (onward.subset ends)

/-- Where there is nothing to do but to yield nodes, gathering comes to the end. -/
theorem hasEnded_gather {c : Course}
    (nodes : ∀ m ∈ c.stream.state.script c.stream.policy, m = .node) :
    c.gather.hasEnded = true := by
  fun_induction Course.gather c with
  | case1 c n h _ ih =>
    exact ih fun m mem => nodes m ((script_pollFrom_suffix _ c.stream.state).subset mem)
  | case2 c h =>
    have last := c.last_poll
    cases answer : c.stream.poll.answer with
    | pending => exact absurd answer (pollFrom_ne_pending nodes)
    | node n => exact absurd answer (h n)
    | ended =>
      rw [answer] at last
      exact Course.hasEnded_iff.mpr last

/-- **Trees are rendered without waiting.** -/
theorem gather_ofJson (policy : Policy) (j : Json) :
    let c := (Course.start policy (Source.ofJson j)).gather
    c.hasEnded = true ∧ c.nodes = renderNodes policy (Source.ofJson j) := by
  have ended : (Course.start policy (Source.ofJson j)).gather.hasEnded = true :=
    hasEnded_gather (script_start_ofJson policy j)
  obtain ⟨events, collected⟩ := (Course.start policy (Source.ofJson j)).collectFrom_gather []
  rw [if_pos ended] at collected
  exact ⟨ended, (congrArg Rendering.nodes collected).symm⟩

end Render

end JsonMarkup
