/-!
# Render policy

A policy says which tags may render and how deep elements may lie within each other. Exclusion is
looked at first, then inclusion, then depth; the first of them that a tag violates is reported.
-/

namespace JsonMarkup

/-! ## Sets of tags -/

/-- Put a tag into an increasing list, unless it is there. -/
def insertTag (t : String) : List String → List String
  | [] => [t]
  | u :: rest =>
    if t < u then t :: u :: rest else if u < t then u :: insertTag t rest else u :: rest

/-- Inserting adds the tag and nothing else. -/
theorem mem_insertTag {t s : String} {tags : List String} :
    s ∈ insertTag t tags ↔ s = t ∨ s ∈ tags := by
  induction tags with
  | nil => simp [insertTag]
  | cons u rest ih =>
    unfold insertTag
    split
    · simp
    · split
      · simp only [List.mem_cons, ih]
        constructor
        · rintro (h | h | h) <;> simp [h]
        · rintro (h | h | h) <;> simp [h]
      · rename_i h₁ h₂
        have : t = u := String.le_antisymm (String.not_lt.mp h₂) (String.not_lt.mp h₁)
        simp [this]

theorem pairwise_insertTag {t : String} {tags : List String} (h : tags.Pairwise (· < ·)) :
    (insertTag t tags).Pairwise (· < ·) := by
  induction tags with
  | nil => simp [insertTag]
  | cons u rest ih =>
    obtain ⟨hu, hrest⟩ := List.pairwise_cons.mp h
    unfold insertTag
    split
    · rename_i hlt
      refine List.pairwise_cons.mpr ⟨fun s hs => ?_, h⟩
      rcases List.mem_cons.mp hs with rfl | hs
      · exact hlt
      · exact String.lt_trans hlt (hu s hs)
    · split
      · rename_i hlt
        refine List.pairwise_cons.mpr ⟨fun s hs => ?_, ih hrest⟩
        rcases mem_insertTag.mp hs with rfl | hs
        · exact hlt
        · exact hu s hs
      · exact h

/-- A set of tags, listed by code points. -/
structure TagSet where
  tags : List String
  /-- They increase, so that each set has one list. -/
  increasing : tags.Pairwise (· < ·)
deriving DecidableEq

namespace TagSet

def empty : TagSet := ⟨[], List.Pairwise.nil⟩

instance : Inhabited TagSet := ⟨empty⟩

def isEmpty (s : TagSet) : Bool := s.tags.isEmpty

def contains (s : TagSet) (tag : String) : Bool := s.tags.contains tag

def insert (s : TagSet) (tag : String) : TagSet :=
  ⟨insertTag tag s.tags, pairwise_insertTag s.increasing⟩

def insertAll (s : TagSet) (tags : List String) : TagSet := tags.foldl insert s

/-- The set of the tags in a list. -/
def ofList (tags : List String) : TagSet := empty.insertAll tags

end TagSet

/-! ## Policies -/

/-- Deepest level that renders when nothing else is said. -/
def defaultMaxDepth : Nat := 256

/-- A level that is named in writing lies below this bound: it has to fit a word of 64 bits. Where
words have 32 bits, as in a browser, levels from `2 ^ 32` on would be refused, too. -/
def depthBound : Nat := Nat.pow 2 64

/-- What may render. -/
structure Policy where
  /-- Tags that render. Without a set, or with an empty one, every tag does. -/
  included : Option TagSet := none
  excluded : Option TagSet := none
  /-- Deepest level that renders; without one, every level does. -/
  maxDepth : Option Nat := some defaultMaxDepth
deriving DecidableEq

namespace Policy

/-- The policy that holds when nothing is said. -/
def standard : Policy := {}

instance : Inhabited Policy := ⟨standard⟩

def including (p : Policy) (tags : List String) : Policy :=
  { p with included := some (TagSet.ofList tags) }

def excluding (p : Policy) (tags : List String) : Policy :=
  { p with excluded := some (TagSet.ofList tags) }

def limitedTo (p : Policy) (maxDepth : Nat) : Policy := { p with maxDepth := some maxDepth }

def unlimited (p : Policy) : Policy := { p with maxDepth := none }

/-- Why a policy keeps a tag from rendering. -/
inductive Violation where
  | excluded (tag : String)
  /-- There is an include list, and the tag is not on it. -/
  | notIncluded (tag : String)
  | tooDeep (depth maxDepth : Nat)
deriving DecidableEq

def Violation.message : Violation → String
  | .excluded tag => "Tag '" ++ tag ++ "' is not allowed (via exclude list)"
  | .notIncluded tag => "Tag '" ++ tag ++ "' is not allowed (via include list)"
  | .tooDeep _ _ => "Max depth reached"

/-- The tag is on the exclude list. -/
def excludes (p : Policy) (tag : String) : Bool := p.excluded.any (·.contains tag)

/-- There is an include list, and the tag is not on it. -/
def omits (p : Policy) (tag : String) : Bool :=
  p.included.any fun tags => !tags.isEmpty && !tags.contains tag

/-- Hold a tag against the policy. A tag at exactly the deepest level passes. -/
def check (p : Policy) (tag : String) (depth : Nat) : Except Violation Unit :=
  if p.excludes tag then .error (.excluded tag)
  else if p.omits tag then .error (.notIncluded tag)
  else
    match p.maxDepth with
    | none => .ok ()
    | some maxDepth => if maxDepth < depth then .error (.tooDeep depth maxDepth) else .ok ()

end Policy

end JsonMarkup
