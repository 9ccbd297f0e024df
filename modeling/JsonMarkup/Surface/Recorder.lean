import JsonMarkup.Surface.Basic

/-!
# Recorded calls

A surface that does nothing but write down the calls that are made, and that can be told to refuse
one of them. Elements and texts are numbered from 1 in the order in which they are created; number
0 is left to an element that was there before.
-/

namespace JsonMarkup

/-- A node that a recorder has handed out. -/
structure RecordedNode where
  number : Nat
  isElement : Bool
deriving DecidableEq, Repr

/-- A call of a surface. -/
inductive SurfaceCall where
  | createElement (tag : String)
  | createTextNode (text : String)
  /-- Replace the content of an element by a text. -/
  | setTextContent (element : Nat) (text : String)
  | setAttribute (element : Nat) (name value : String)
  /-- Replace the inline style of an element by raw text. -/
  | setStyleText (element : Nat) (css : String)
  /-- Merge a property into the inline style of an element. -/
  | setStyleProperty (element : Nat) (name value : String)
  /-- Put a node behind the children of an element. -/
  | appendChild (parent : Nat) (child : RecordedNode)
  | replaceChildren (target : Nat) (children : List RecordedNode)
  | intoNode (element : Nat)
deriving DecidableEq, Repr

/-- What a recorder has seen. -/
structure Recorder where
  /-- The calls, last one first. -/
  calls : List SurfaceCall := []
  count : Nat := 0
  created : Nat := 0
  refuseAt : Option Nat := none

namespace Recorder

/-- A call was refused. -/
structure Refused where
  call : Nat
deriving DecidableEq, Repr

def Refused.message (r : Refused) : String := "call " ++ Nat.repr r.call ++ " refused"

def write (r : Recorder) (call : SurfaceCall) : Recorder :=
  { r with calls := call :: r.calls, count := r.count + 1 }

/-- Write a call down, and refuse it if it is the one to refuse. -/
def record (call : SurfaceCall) : EStateM Refused Recorder Unit := fun r =>
  if r.refuseAt = some r.count then .error ⟨r.count⟩ (r.write call) else .ok () (r.write call)

def number : EStateM Refused Recorder Nat := fun r =>
  .ok (r.created + 1) { r with created := r.created + 1 }

def surface : Surface Recorder RecordedNode Nat Refused where
  createElement tag := do
    record (.createElement tag)
    number
  createTextNode text := do
    record (.createTextNode text)
    return ⟨← number, false⟩
  setTextContent element text := record (.setTextContent element text)
  setAttribute element name value := record (.setAttribute element name value)
  setStyleText element css := record (.setStyleText element css)
  setStyleProperty element name value := record (.setStyleProperty element name value)
  appendChild parent child := record (.appendChild parent child)
  replaceChildren target children := record (.replaceChildren target children)
  intoNode element r := (⟨element, true⟩, r.write (.intoNode element))

end Recorder

end JsonMarkup
