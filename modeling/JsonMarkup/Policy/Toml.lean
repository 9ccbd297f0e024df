import JsonMarkup.Policy.Json
import JsonMarkup.Toml.Token

/-!
# Policies as TOML

A policy file holds the members of a policy, each on lines of its own, as `name = value`: lists of
strings for the sets of tags, an integer for the deepest level. A member that is missing has its
default; there is no way to write an unset member. Nothing else may stand in the file, and no
member twice.
-/

namespace JsonMarkup.Policy

open Toml (Token)

/-! ## Integers -/

/-- Value of digits of a base, single underscores between them not counting; `value` is that of the
digits so far, and `wanted` says that a digit must follow. -/
def digitsFrom (base value : Nat) (wanted : Bool) : List Char → Option Nat
  | [] => if wanted then none else some value
  | c :: rest =>
    if c = '_' then if wanted then none else digitsFrom base value true rest
    else
      match Text.digit? base c with
      | some d => digitsFrom base (value * base + d) false rest
      | none => none

/-- Value of an integer without a sign: decimal, without a zero in front of other digits, or in
another base behind its mark. -/
def magnitude? : List Char → Option Nat
  | '0' :: 'x' :: ds => digitsFrom 16 0 true ds
  | '0' :: 'o' :: ds => digitsFrom 8 0 true ds
  | '0' :: 'b' :: ds => digitsFrom 2 0 true ds
  | ['0'] => some 0
  | '0' :: _ => none
  | ds => digitsFrom 10 0 true ds

/-- Value of an integer that has a sign; only decimal ones may. -/
def signed? (negative : Bool) (ds : List Char) : Option Int :=
  if ds.head? = some '0' ∧ ds ≠ ['0'] then none
  else (digitsFrom 10 0 true ds).map fun n => if negative then -n else n

def integer? : List Char → Option Int
  | '+' :: ds => signed? false ds
  | '-' :: ds => signed? true ds
  | ds => (magnitude? ds).map Int.ofNat

def level? (text : String) : Option Nat :=
  match integer? text.toList with
  | some n => if 0 ≤ n ∧ n < depthBound then some n.toNat else none
  | none => none

/-! ## Members -/

/-- Where a reader of lines stands between two tokens. -/
inductive Place where
  /-- Before a member, or on a line without one. -/
  | lineStart
  | afterName (field : Field)
  | beforeValue (field : Field)
  | afterValue
  /-- Before a tag, or before the end of the list. -/
  | beforeTag (field : Field) (tags : TagSet)
  | afterTag (field : Field) (tags : TagSet)

/-- A reader of lines: what it has read, and where it stands. -/
structure LineReader where
  draft : Draft
  place : Place

namespace LineReader

/-- Take the name of a member that has not been given. -/
def takeName (d : Draft) (name : String) : Option LineReader :=
  match Field.ofName? name with
  | some field => if d.has field then none else some ⟨d, .afterName field⟩
  | none => none

/-- Take the first token of the value of a member. -/
def takeValue (d : Draft) : Field → Token → Option LineReader
  | .maxDepth, .word text =>
    (level? text).map fun n => ⟨{ d with maxDepth := some (some n) }, .afterValue⟩
  | .maxDepth, _ => none
  | field, .listOpen => some ⟨d, .beforeTag field .empty⟩
  | _, _ => none

def advance (r : LineReader) (t : Token) : Option LineReader :=
  let d := r.draft
  match r.place, t with
  | .lineStart, .lineEnd => some r
  | .lineStart, .word name => takeName d name
  | .lineStart, .string name false => takeName d name
  | .afterName field, .equals => some ⟨d, .beforeValue field⟩
  | .beforeValue field, t => takeValue d field t
  | .afterValue, .lineEnd => some ⟨d, .lineStart⟩
  | .beforeTag _ _, .lineEnd => some r
  | .beforeTag field tags, .string tag _ => some ⟨d, .afterTag field (tags.insert tag)⟩
  | .beforeTag field tags, .listClose => some ⟨d.setTags (some tags) field, .afterValue⟩
  | .afterTag _ _, .lineEnd => some r
  | .afterTag field tags, .comma => some ⟨d, .beforeTag field tags⟩
  | .afterTag field tags, .listClose => some ⟨d.setTags (some tags) field, .afterValue⟩
  | _, _ => none

/-- The policy, if the file may end here. -/
def finish (r : LineReader) : Option Policy :=
  match r.place with
  | .lineStart | .afterValue => some r.draft.finish
  | _ => none

end LineReader

def readToml (text : String) : Option Policy :=
  match Toml.scan text with
  | some tokens => (tokens.foldlM LineReader.advance ⟨{}, .lineStart⟩).bind LineReader.finish
  | none => none

end JsonMarkup.Policy
