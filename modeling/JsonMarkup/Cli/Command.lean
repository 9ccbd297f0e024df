import JsonMarkup.Policy.Basic

/-!
# Commands

What can be asked for on the command line. A policy comes from a file or is the standard one; what
is said on the command line is laid over it.
-/

namespace JsonMarkup.Cli

/-- What is said about depth. -/
inductive DepthOption where
  | unsaid
  | limit (maxDepth : Nat)
  | unlimited
deriving DecidableEq, Repr

/-- What is said about the policy. -/
structure PolicyOptions where
  file? : Option String := none
  included : List String := []
  excluded : List String := []
  depth : DepthOption := .unsaid
deriving DecidableEq, Repr

/-- Put tags on a list, which comes to be with the first of them. -/
def extendTags (tags? : Option TagSet) (more : List String) : Option TagSet :=
  if more.isEmpty then tags? else some ((tags?.getD .empty).insertAll more)

/-- Lay what is said over a policy. -/
def PolicyOptions.overlay (o : PolicyOptions) (p : Policy) : Policy where
  included := extendTags p.included o.included
  excluded := extendTags p.excluded o.excluded
  maxDepth :=
    match o.depth with
    | .unsaid => p.maxDepth
    | .limit maxDepth => some maxDepth
    | .unlimited => none

/-- The form in which nodes are written. -/
inductive Format where
  | html
  | json
deriving DecidableEq, Repr

/-- What to do with a document. -/
inductive Action where
  /-- Render it, to standard output or to a file. -/
  | render (format : Format) (output? : Option String)
  | check
deriving DecidableEq, Repr

/-- A command. -/
structure Command where
  input : String
  policy : PolicyOptions
  action : Action
deriving DecidableEq, Repr

end JsonMarkup.Cli
