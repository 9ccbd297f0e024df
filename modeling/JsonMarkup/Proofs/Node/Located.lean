import Mathlib.Data.List.Forall2
import JsonMarkup.Proofs.Node.Decoding
import JsonMarkup.Proofs.Node.Shown

/-!
# Where error nodes stand

A node below others is found by the numbers of the children on the way down to it. The order of
these places is document order.

**What is found** (`Node.ErrorAt`, `ErrorAmong`). An error node stands at a place, within the
elements on the way down, and carries a message.

**Main statements.** Diagnostics list what is found: all of it, each once, in document order
(`lists_diagnostics`, `lists_diagnosticsAmong`). A path is put together from tags, and splitting it
where it has been put together gives the tags back if they can be written in markup
(`splitPath_intercalate`).
-/

namespace JsonMarkup

/-! ## Places -/

/-- An error node with a message, at a place below a node: the numbers of the children on the way
down, and the tags of the elements on the way, the outermost first. -/
inductive Node.ErrorAt : Node → List Nat → List String → String → Prop
  | here {message : String} : ErrorAt (.error message) [] [] message
  | within {i : Nat} {place : List Nat} {tag message : String} {attributes : Fields String}
    {style : Style} {children : List Node} {child : Node} {ancestors : List String} :
    children[i]? = some child → ErrorAt child place ancestors message →
    ErrorAt (.element tag attributes style children) (i :: place) (tag :: ancestors) message

/-- The same for siblings that are counted from `k`. -/
def ErrorFrom (k : Nat) (nodes : List Node) (place : List Nat) (ancestors : List String)
    (message : String) : Prop :=
  ∃ i rest n, place = (k + i) :: rest ∧ nodes[i]? = some n ∧ n.ErrorAt rest ancestors message

/-- An error node among nodes of the top level and below. -/
abbrev ErrorAmong : List Node → List Nat → List String → String → Prop := ErrorFrom 0

section

variable {k : Nat} {nodes rest : List Node} {place : List Nat} {ancestors : List String}
  {message : String}

theorem not_errorFrom_nil : ¬ ErrorFrom k [] place ancestors message := by
  rintro ⟨i, _, _, -, found, -⟩
  cases found

theorem errorFrom_cons {n : Node} : ErrorFrom k (n :: rest) place ancestors message ↔
    (∃ inner, place = k :: inner ∧ n.ErrorAt inner ancestors message) ∨
      ErrorFrom (k + 1) rest place ancestors message := by
  constructor
  · rintro ⟨_ | i, inner, n', rfl, found, h⟩
    · cases found
      exact .inl ⟨inner, rfl, h⟩
    · exact .inr ⟨i, inner, n', by rw [Nat.add_right_comm, Nat.add_assoc], found, h⟩
  · rintro (⟨inner, rfl, h⟩ | ⟨i, inner, n', rfl, found, h⟩)
    · exact ⟨0, inner, n, rfl, rfl, h⟩
    · exact ⟨i + 1, inner, n', by rw [Nat.add_right_comm, Nat.add_assoc], found, h⟩

theorem errorAt_element {tag : String} {attributes : Fields String} {style : Style} :
    (Node.element tag attributes style nodes).ErrorAt place ancestors message ↔
      ∃ inner, ancestors = tag :: inner ∧ ErrorAmong nodes place inner message := by
  constructor
  · intro h
    cases h with
    | within found h => exact ⟨_, rfl, _, _, _, by rw [Nat.zero_add], found, h⟩
  · rintro ⟨inner, rfl, i, rest, n, rfl, found, h⟩
    rw [Nat.zero_add]
    exact .within found h

end

mutual

/-- The places of the error nodes at and below a node, in document order. -/
def Node.errorPlaces : Node → List (List Nat)
  | .text _ => []
  | .error _ => [[]]
  | .element _ _ _ children => errorPlacesFrom 0 children

/-- The places of the error nodes at and below siblings that are counted from `k`. -/
def errorPlacesFrom (k : Nat) : List Node → List (List Nat)
  | [] => []
  | n :: rest => n.errorPlaces.map (k :: ·) ++ errorPlacesFrom (k + 1) rest

end

mutual

/-- There is an error node at each of the places and nowhere else. -/
theorem mem_errorPlaces {place : List Nat} : ∀ {n : Node},
    place ∈ n.errorPlaces ↔ ∃ ancestors message, n.ErrorAt place ancestors message
  | .text _ => iff_of_false nofun nofun
  | .error message => by
    rw [Node.errorPlaces, List.mem_singleton]
    constructor
    · rintro rfl
      exact ⟨[], message, .here⟩
    · rintro ⟨_, _, ⟨⟩⟩
      rfl
  | .element tag attributes style children => by
    rw [Node.errorPlaces, mem_errorPlacesFrom children]
    simp only [errorAt_element]
    constructor
    · rintro ⟨inner, message, h⟩
      exact ⟨_, message, inner, rfl, h⟩
    · rintro ⟨_, message, inner, rfl, h⟩
      exact ⟨inner, message, h⟩

theorem mem_errorPlacesFrom {place : List Nat} {k : Nat} : ∀ nodes : List Node,
    place ∈ errorPlacesFrom k nodes ↔
      ∃ ancestors message, ErrorFrom k nodes place ancestors message
  | [] => iff_of_false nofun fun ⟨_, _, h⟩ => not_errorFrom_nil h
  | n :: rest => by
    simp only [errorPlacesFrom, List.mem_append, List.mem_map, mem_errorPlaces (n := n),
      mem_errorPlacesFrom rest, errorFrom_cons, exists_or]
    refine or_congr_left ?_
    constructor
    · rintro ⟨inner, ⟨ancestors, message, h⟩, rfl⟩
      exact ⟨ancestors, message, inner, rfl, h⟩
    · rintro ⟨ancestors, message, inner, rfl, h⟩
      exact ⟨inner, ⟨ancestors, message, h⟩, rfl⟩

end

mutual

/-- Places are in document order, each once. -/
theorem pairwise_errorPlaces : ∀ n : Node, n.errorPlaces.Pairwise (· < ·)
  | .text _ => .nil
  | .error _ => List.pairwise_singleton _ _
  | .element _ _ _ children => pairwise_errorPlacesFrom 0 children

theorem pairwise_errorPlacesFrom (k : Nat) : ∀ nodes : List Node,
    (errorPlacesFrom k nodes).Pairwise (· < ·)
  | [] => .nil
  | n :: rest => by
    refine List.pairwise_append.mpr ⟨?_, pairwise_errorPlacesFrom (k + 1) rest, ?_⟩
    · exact List.pairwise_map.mpr ((pairwise_errorPlaces n).imp fun lt =>
        List.cons_lt_cons_iff.mpr (.inr ⟨rfl, lt⟩))
    · intro place here later hlater
      obtain ⟨inner, -, rfl⟩ := List.mem_map.mp here
      obtain ⟨_, _, i, behind, _, rfl, -, -⟩ := (mem_errorPlacesFrom rest).mp hlater
      exact List.cons_lt_cons_iff.mpr (.inl (by omega))

end

/-! ## Diagnostics -/

/-- A diagnostic tells what is found at a place, further in than the elements `above`. -/
def Diagnostic.Tells (found : List Nat → List String → String → Prop) (above : List String)
    (place : List Nat) (d : Diagnostic) : Prop :=
  ∃ inner, d.ancestors = above ++ inner ∧ found place inner d.message

mutual

theorem forall₂_diagnosticsIn (above : List String) : ∀ n : Node,
    List.Forall₂ (Diagnostic.Tells n.ErrorAt above) n.errorPlaces (n.diagnosticsIn above)
  | .text _ => .nil
  | .error _ => .cons ⟨[], (List.append_nil _).symm, .here⟩ .nil
  | .element tag attributes style children => by
    refine (forall₂_diagnosticsInAll (above ++ [tag]) 0 children).imp ?_
    rintro place d ⟨inner, split, h⟩
    exact ⟨tag :: inner, by rw [split, List.append_assoc, List.singleton_append],
      errorAt_element.mpr ⟨inner, rfl, h⟩⟩

theorem forall₂_diagnosticsInAll (above : List String) (k : Nat) : ∀ nodes : List Node,
    List.Forall₂ (Diagnostic.Tells (ErrorFrom k nodes) above) (errorPlacesFrom k nodes)
      (Node.diagnosticsInAll above nodes)
  | [] => .nil
  | n :: rest => by
    refine List.rel_append ?_ ?_
    · refine List.forall₂_map_left_iff.mpr ((forall₂_diagnosticsIn above n).imp ?_)
      rintro place d ⟨inner, split, h⟩
      exact ⟨inner, split, errorFrom_cons.mpr (.inl ⟨place, rfl, h⟩)⟩
    · refine (forall₂_diagnosticsInAll above (k + 1) rest).imp ?_
      rintro place d ⟨inner, split, h⟩
      exact ⟨inner, split, errorFrom_cons.mpr (.inr h)⟩

end

/-- The diagnostics are what is found, all of it, each once and in document order, with its message
and with the tags around it joined to a path. -/
def ListsInOrder (found : List Nat → List String → String → Prop) (ds : List Diagnostic) : Prop :=
  ∃ places : List (List Nat), places.Pairwise (· < ·) ∧
    (∀ place, place ∈ places ↔ ∃ ancestors message, found place ancestors message) ∧
    List.Forall₂ (fun place d => ∃ ancestors, found place ancestors d.message ∧
      d.path = " > ".intercalate ancestors) places ds

theorem Diagnostic.Tells.path {found : List Nat → List String → String → Prop} {place : List Nat}
    {d : Diagnostic} (h : d.Tells found [] place) :
    ∃ ancestors, found place ancestors d.message ∧ d.path = " > ".intercalate ancestors := by
  obtain ⟨inner, same, h⟩ := h
  exact ⟨inner, h, congrArg _ same⟩

/-- The diagnostics of a node list its error nodes. -/
theorem lists_diagnostics (n : Node) : ListsInOrder n.ErrorAt n.diagnostics :=
  ⟨n.errorPlaces, pairwise_errorPlaces n, fun _ => mem_errorPlaces,
    (forall₂_diagnosticsIn [] n).imp fun _ _ => Diagnostic.Tells.path⟩

/-- The diagnostics of several nodes list the error nodes of all of them. -/
theorem lists_diagnosticsAmong (nodes : List Node) :
    ListsInOrder (ErrorAmong nodes) (nodes.flatMap Node.diagnostics) := by
  rw [← Node.diagnosticsInAll_nil]
  exact ⟨errorPlacesFrom 0 nodes, pairwise_errorPlacesFrom 0 nodes,
    fun _ => mem_errorPlacesFrom nodes,
    (forall₂_diagnosticsInAll [] 0 nodes).imp fun _ _ => Diagnostic.Tells.path⟩

/-- There are no diagnostics just if there is nothing to be found. -/
theorem ListsInOrder.eq_nil_iff {found : List Nat → List String → String → Prop}
    {ds : List Diagnostic} (h : ListsInOrder found ds) :
    ds = [] ↔ ∀ place ancestors message, ¬ found place ancestors message := by
  obtain ⟨places, -, complete, told⟩ := h
  have none : ds = [] ↔ places = [] := by
    rw [← List.length_eq_zero_iff, ← List.length_eq_zero_iff, told.length_eq]
  rw [none, List.eq_nil_iff_forall_not_mem]
  simp only [complete, not_exists]

/-! ## Paths -/

/-- Put a character in front of the first part. -/
def consFirst (c : Char) : List (List Char) → List (List Char)
  | [] => [[c]]
  | part :: rest => (c :: part) :: rest

/-- The parts between arrows. -/
def splitArrows : List Char → List (List Char)
  | [] => [[]]
  | ' ' :: '>' :: ' ' :: rest => [] :: splitArrows rest
  | c :: rest => consFirst c (splitArrows rest)

/-- The parts of a path, which are parted by arrows with a blank on each side. -/
def splitPath (path : String) : List String := (splitArrows path.toList).map String.ofList

theorem splitArrows_cons {c : Char} (h : c ≠ ' ') (rest : List Char) :
    splitArrows (c :: rest) = consFirst c (splitArrows rest) := by
  rw [splitArrows]
  rintro _ rfl
  exact absurd rfl h

/-- What holds no blank is one part. -/
theorem splitArrows_of_noBlank {part : List Char} (h : ∀ c ∈ part, c ≠ ' ') :
    splitArrows part = [part] := by
  induction part with
  | nil => rfl
  | cons c part ih =>
    rw [List.forall_mem_cons] at h
    rw [splitArrows_cons h.1, ih h.2]
    rfl

/-- What holds no blank and stands in front of an arrow is the first part. -/
theorem splitArrows_append {part : List Char} (h : ∀ c ∈ part, c ≠ ' ') (rest : List Char) :
    splitArrows (part ++ (" > ".toList ++ rest)) = part :: splitArrows rest := by
  induction part with
  | nil => rfl
  | cons c part ih =>
    rw [List.forall_mem_cons] at h
    rw [List.cons_append, splitArrows_cons h.1, ih h.2]
    rfl

/-- There is no blank in a name. -/
theorem noBlank_of_isName {name : String} (h : Text.isName name = true) :
    ∀ c ∈ name.toList, c ≠ ' ' := fun _ hc => (ne_of_isNameChar (isNameChar_of_mem h hc)).1

/-- Splitting at arrows undoes joining with them. -/
theorem splitPath_intercalate {tags : List String} (h : ∀ tag ∈ tags, Text.isName tag = true)
    (nonempty : tags ≠ []) : splitPath (" > ".intercalate tags) = tags := by
  induction tags with
  | nil => exact absurd rfl nonempty
  | cons tag rest ih =>
    rw [List.forall_mem_cons] at h
    have noBlank := noBlank_of_isName h.1
    cases rest with
    | nil =>
      rw [String.intercalate_singleton, splitPath, splitArrows_of_noBlank noBlank]
      simp
    | cons next others =>
      have later := ih h.2 (List.cons_ne_nil next others)
      rw [splitPath] at later
      rw [String.intercalate_cons_cons, splitPath, String.toList_append, String.toList_append,
        List.append_assoc, splitArrows_append noBlank, List.map_cons, later, String.ofList_toList]

/-- The path is empty just if there are no tags. -/
theorem intercalate_eq_empty_iff {tags : List String} (h : ∀ tag ∈ tags, Text.isName tag = true) :
    " > ".intercalate tags = "" ↔ tags = [] := by
  constructor
  · intro empty
    refine Decidable.byContradiction fun nonempty => ?_
    have back := splitPath_intercalate h nonempty
    rw [empty] at back
    rw [← back] at h
    exact absurd (h "" (by decide)) (by decide)
  · rintro rfl
    exact String.intercalate_nil

theorem wellNamed_of_mem {n : Node} : ∀ {nodes : List Node}, AllWellNamed nodes → n ∈ nodes →
    n.WellNamed
  | _ :: _, ⟨here, later⟩, h => by
    rcases List.mem_cons.mp h with rfl | h
    · exact here
    · exact wellNamed_of_mem later h

/-- The error nodes of a well-named node stand within elements whose tags can be written. -/
theorem isName_of_errorAt {n : Node} {place : List Nat} {ancestors : List String}
    {message : String} (h : n.ErrorAt place ancestors message) (named : n.WellNamed) :
    ∀ tag ∈ ancestors, Text.isName tag = true := by
  induction h with
  | here => nofun
  | within found _ ih =>
    obtain ⟨tagNamed, -, childrenNamed⟩ := named
    refine List.forall_mem_cons.mpr ⟨tagNamed, ih ?_⟩
    exact wellNamed_of_mem childrenNamed (List.mem_of_getElem? found)

/-- Only a node itself stands within no element. -/
theorem ancestors_eq_nil_iff {n : Node} {place : List Nat} {ancestors : List String}
    {message : String} (h : n.ErrorAt place ancestors message) :
    ancestors = [] ↔ place = [] := by
  cases h with
  | here => exact iff_of_true rfl rfl
  | within _ _ => exact iff_of_false (List.cons_ne_nil _ _) (List.cons_ne_nil _ _)

end JsonMarkup
