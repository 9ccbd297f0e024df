/-!
# Events of a rendering

What happens while a document is rendered, in order: pending values start and settle, tags are
entered, and error nodes take the place of failed fragments. The log keeps what concerns labelled
pending values; the trace keeps what concerns tags and errors.
-/

namespace JsonMarkup

/-- Something that happens while a document is rendered. -/
inductive Event where
  /-- A pending value is polled for the first time. -/
  | started (label : Option String)
  | settled (label : Option String)
  | failed (label : Option String)
  /-- A tag is entered, before anything about it is checked. -/
  | enteredTag (tag : String) (depth : Nat)
  /-- An error node takes the place of a fragment. -/
  | substituted (message : String)
deriving DecidableEq, Repr

namespace Event

/-- The log line of an event, if it has one. -/
def logLine? : Event → Option String
  | .started (some label) => some (label ++ ":start")
  | .settled (some label) => some (label ++ ":end")
  | .failed (some label) => some (label ++ ":fail")
  | _ => none

end Event

def logLines (events : List Event) : List String := events.filterMap Event.logLine?

/-- An entry of a trace. -/
structure TraceEntry where
  /-- How important the entry is, or that it opens a span. -/
  level : String
  message : String
  fields : List (String × String)
  inside : Bool
deriving DecidableEq, Repr

namespace TraceEntry

/-- The span of a rendering with this depth limit. -/
def span (maxDepth : Option Nat) : TraceEntry :=
  let text := match maxDepth with
    | some n => "Some(" ++ Nat.repr n ++ ")"
    | none => "None"
  ⟨"span", "render", [("max_depth", text)], false⟩

def beginning : TraceEntry := ⟨"debug", "rendering source", [], true⟩

/-- Rendered nodes are about to be mounted. -/
def mounting (count : Nat) : TraceEntry :=
  ⟨"debug", "mounting rendered nodes", [("count", Nat.repr count)], false⟩

end TraceEntry

/-- The trace entry of an event, if it has one. -/
def Event.traceEntry? : Event → Option TraceEntry
  | .enteredTag tag depth =>
    some ⟨"trace", "rendering tag", [("tag", tag), ("depth", Nat.repr depth)], true⟩
  | .substituted message => some ⟨"warn", "substituting error node", [("error", message)], true⟩
  | _ => none

/-- The trace of a rendering with this depth limit. -/
def traceOf (maxDepth : Option Nat) (events : List Event) : List TraceEntry :=
  .span maxDepth :: .beginning :: events.filterMap Event.traceEntry?

end JsonMarkup
