import JsonMarkup.Render.Course
import JsonMarkup.Surface.Basic

/-!
# Mounting

Mounting renders a document and then puts all its nodes in the place of the children of a target.
As long as the rendering has not ended, no call is made: a mounting that meets a value that is not
there yet is put off, to be polled again later, and meanwhile gates of its document may be decided.
-/

namespace JsonMarkup

open Render (Course)

/-- A mounting that is not over. -/
structure Mount (η : Type) where
  target : η
  /-- How far the rendering has got. -/
  rendering : Course

namespace Mount

variable {σ ν η ε : Type}

def start (policy : Policy) (target : η) (source : Source) : Mount η :=
  ⟨target, .start policy source⟩

/-- Render as far as that is possible without waiting. -/
def gather (m : Mount η) : Mount η := { m with rendering := m.rendering.gather }

/-- Put the nodes in the place of the children of the target, if the rendering has ended; else the
mounting is put off. -/
def finish (S : Surface σ ν η ε) (m : Mount η) : EStateM ε σ (Option (Mount η)) :=
  if m.rendering.hasEnded then do
    S.mountNodes m.target m.rendering.nodes
    return none
  else return some m

/-- Go on with a mounting, and return it if it has to be put off. -/
def poll (S : Surface σ ν η ε) (m : Mount η) : EStateM ε σ (Option (Mount η)) := m.gather.finish S

/-- Go on with a mounting until it is over, or until a gate is in the way. A poll that puts it off
makes no call, so there is nothing to be done on the surface between two polls. -/
def run (S : Surface σ ν η ε) (m : Mount η) : EStateM ε σ (Option (Mount η)) :=
  if h : m.rendering.gather.hasEnded = false ∧ m.rendering.gather.waitsFor? = none then
    have := Course.gather_below h.1 h.2
    m.gather.run S
  else m.poll S
termination_by m.rendering.weight

end Mount

/-- Mount a document, waiting for whatever comes without a gate being decided. -/
def Surface.mount {σ ν η ε : Type} (S : Surface σ ν η ε) (policy : Policy) (target : η)
    (source : Source) : EStateM ε σ (Option (Mount η)) :=
  (Mount.start policy target source).run S

end JsonMarkup
