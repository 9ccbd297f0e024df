import JsonMarkup.Proofs.Render.Course
import JsonMarkup.Surface.Mount

/-!
# Mountings that settle

A mounting makes calls when its rendering has ended, and none before. Polled again and again, it
comes as far as the rendering of the whole document does: to the end, or to a gate
(`mount_eq_finish`).

A document settles if its rendering comes to the end, by itself or because its gates are decided.
Mounting it (`Surface.Mounting`) is building the nodes and putting them in the place of the children
of the target (`Mounting.eq_mountNodes`).
-/

namespace JsonMarkup

open Render

/-- The course has come as far as the rendering: to the end, or to the same gate. -/
structure Render.Course.Reaches (c : Course) (r : Rendering) : Prop where
  nodes : c.nodes = r.nodes
  ended : c.hasEnded = true → r.blockedOn? = none
  blocked : c.hasEnded = false → c.waitsFor?.isSome = true ∧ r.blockedOn? = c.waitsFor?

variable {σ ν η ε : Type} {S : Surface σ ν η ε}

namespace Mount

variable {m : Mount η}

theorem finish_of_ended (ended : m.rendering.hasEnded = true) :
    m.finish S = S.mountNodes m.target m.rendering.nodes >>= fun _ => pure none := by
  rw [finish, if_pos ended]

theorem finish_of_going (going : m.rendering.hasEnded = false) : m.finish S = pure (some m) := by
  rw [finish, going]
  rfl

/-- Going on with a mounting comes as far as collecting what is left of its rendering. -/
theorem run_eq_finish (S : Surface σ ν η ε) (m : Mount η) (events : List Event) :
    ∃ n, m.run S = (⟨m.target, Course.poll^[n] m.rendering⟩ : Mount η).finish S ∧
      (Course.poll^[n] m.rendering).Reaches
        (collectFrom m.rendering.stream.policy m.rendering.nodes.reverse events
          m.rendering.stream.state) := by
  fun_induction run S m generalizing events with
  | case1 m h _ ih =>
    obtain ⟨going, free⟩ := h
    obtain ⟨k, gathered⟩ := m.rendering.gather_eq_poll
    obtain ⟨events', collected⟩ := m.rendering.collectFrom_gather events
    obtain ⟨n, run, reaches⟩ := ih events'
    have later : Course.poll^[n] m.gather.rendering = Course.poll^[n + k] m.rendering := by
      rw [Function.iterate_add_apply, ← gathered]
      rfl
    have policy : m.gather.rendering.stream.policy = m.rendering.stream.policy :=
      m.rendering.policy_gather
    rw [later] at run reaches
    rw [policy] at reaches
    rw [going, free] at collected
    exact ⟨n + k, run, collected ▸ reaches⟩
  | case2 m h =>
    obtain ⟨k, gathered⟩ := m.rendering.gather_eq_poll
    obtain ⟨events', collected⟩ := m.rendering.collectFrom_gather events
    refine ⟨k, by rw [← gathered]; rfl, ?_⟩
    rw [collected, ← gathered]
    cases ended : m.rendering.gather.hasEnded with
    | true => exact ⟨rfl, fun _ => rfl, fun going => absurd (ended.symm.trans going) nofun⟩
    | false =>
      have blocked : m.rendering.gather.waitsFor?.isSome = true := by
        rw [Option.isSome_iff_ne_none]
        exact fun free => h ⟨ended, free⟩
      rw [if_neg Bool.false_ne_true, if_pos blocked]
      exact ⟨rfl, fun done' => absurd (ended.symm.trans done') nofun, fun _ => ⟨blocked, rfl⟩⟩

end Mount

/-- Mounting a document comes as far as its rendering. -/
theorem Surface.mount_eq_finish (S : Surface σ ν η ε) (policy : Policy) (target : η)
    (source : Source) : ∃ n,
      S.mount policy target source =
        (⟨target, course policy source (List.replicate n .poll)⟩ : Mount η).finish S ∧
      (course policy source (List.replicate n .poll)).Reaches (render policy source) := by
  obtain ⟨n, run, reaches⟩ := (Mount.start policy target source).run_eq_finish S []
  have polled : course policy source (List.replicate n .poll) =
      Course.poll^[n] (.start policy source) := course_polls policy source [] n
  exact ⟨n, polled ▸ run, polled ▸ reaches⟩

/-- Mounting a document that settles, and the nodes that are mounted: it settles by itself, or in
the course of its rendering. -/
inductive Surface.Mounting (S : Surface σ ν η ε) (policy : Policy) (source : Source) (target : η) :
    List Node → EStateM ε σ (Option (Mount η)) → Prop
  | atOnce : (render policy source).blockedOn? = none →
    Mounting S policy source target (renderNodes policy source) (S.mount policy target source)
  | inCourse {moves : List Move} :
    (course policy source moves).gather.answers.getLast? = some .ended →
    Mounting S policy source target (course policy source moves).gather.nodes
      ((⟨target, course policy source moves⟩ : Mount η).poll S)

variable {policy : Policy} {source : Source} {target : η} {nodes : List Node}
  {run : EStateM ε σ (Option (Mount η))}

theorem Surface.Mounting.eq_mountNodes (h : S.Mounting policy source target nodes run) (s : σ) :
    run s =
      match S.mountNodes target nodes s with
      | .ok () s' => .ok none s'
      | .error e s' => .error e s' := by
  have whole : run = S.mountNodes target nodes >>= fun _ => pure none := by
    cases h with
    | atOnce settles =>
      obtain ⟨n, mounted, reaches⟩ := S.mount_eq_finish policy target source
      have ended : (course policy source (List.replicate n .poll)).hasEnded = true := by
        by_contra going
        obtain ⟨waits, same⟩ := reaches.blocked (Bool.eq_false_iff.mpr going)
        rw [← same, settles] at waits
        cases waits
      rw [mounted, Mount.finish_of_ended ended, reaches.nodes]
      rfl
    | inCourse ended => exact Mount.finish_of_ended (Course.hasEnded_iff.mpr ended)
  rw [whole]
  simp only [bind, EStateM.bind]
  cases S.mountNodes target nodes s <;> rfl

end JsonMarkup
