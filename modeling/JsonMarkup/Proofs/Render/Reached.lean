import JsonMarkup.Proofs.Render.Wanted

/-!
# Tags that are reached

Which of the tags of a document a rendering enters, and in which order, can be said without
rendering it. A tag stands at a path, the numbers of the entries on the way down to it, and above it
stand the tags of the elements that it lies in. The order of paths is document order.

**What is reached** (`Reached`). A tag is reached unless it lies in the value of a refused tag, or
behind an attribute of the same element that cannot be used. Whether it is refused itself makes no
difference.

**Main statements.** `Source.tags` lists the tags that are reached (`mem_tags`), in document order
(`inOrder_tags`).
-/

namespace JsonMarkup

open Render

/-- A tag and where it stands in a document. -/
structure Place where
  /-- The numbers of the entries on the way down to it. -/
  path : List Nat
  /-- The tags that it lies in, the outermost first. -/
  above : List String
  tag : String

/-- The same in an entry of this number. -/
def Place.under (i : Nat) (t : Place) : Place := ⟨i :: t.path, t.above, t.tag⟩

/-- A tag that a rendering enters, in a position that lies in the tags `above`. -/
inductive Reached (policy : Policy) : Role → List String → Source → Place → Prop
  | settled {role : Role} {above : List String} {label : Option String} {yields : Nat} {s : Source}
    {t : Place} : Reached policy role above s t →
    Reached policy role above (.pending (.deferred label yields s)) (t.under 0)
  | tag {role : Role} {above : List String} {before after : List (String × Source)} {key : String}
    {s : Source} {depth : Nat} : (∀ e ∈ before, role.Passes e) → role.tagDepth? key = some depth →
    Reached policy role above (.ready (.mapping (before ++ (key, s) :: after)))
      ⟨[before.length], above, key⟩
  | within {role : Role} {above : List String} {before after : List (String × Source)}
    {key : String} {s : Source} {depth : Nat} {t : Place} : (∀ e ∈ before, role.Passes e) →
    role.tagDepth? key = some depth → policy.admits key depth = true →
    Reached policy (.content depth) (above ++ [key]) s t →
    Reached policy role above (.ready (.mapping (before ++ (key, s) :: after)))
      (t.under before.length)
  | item {role inner : Role} {above : List String} {before after : List Source} {s : Source}
    {t : Place} : role.inList? = some inner → Reached policy inner above s t →
    Reached policy role above (.ready (.list (before ++ s :: after))) (t.under before.length)

/-! ## The list of what is reached -/

mutual

/-- The tags that are reached in a position, in document order. -/
def Source.tags (policy : Policy) (role : Role) (above : List String) : Source → List Place
  | .ready v => v.tags policy role above
  | .pending p => p.tags policy role above

/-- The tags that are reached in what a pending value settles to. -/
def Pending.tags (policy : Policy) (role : Role) (above : List String) : Pending → List Place
  | .deferred _ _ s => (s.tags policy role above).map (.under 0)
  | .failing _ _ _ | .gate _ => []

/-- The tags that are reached in a value. -/
def Value.tags (policy : Policy) (role : Role) (above : List String) : Value → List Place
  | .mapping entries => entriesTags policy role above 0 entries
  | .list items =>
    match role.inList? with
    | some inner => itemsTags policy inner above 0 items
    | none => []
  | _ => []

/-- The tags that are reached in entries of a mapping, counted from `i`. -/
def entriesTags (policy : Policy) (role : Role) (above : List String) (i : Nat) :
    List (String × Source) → List Place
  | [] => []
  | (key, s) :: rest =>
    (match role.tagDepth? key with
      | some depth => ⟨[i], above, key⟩ ::
        if policy.admits key depth then
          (s.tags policy (.content depth) (above ++ [key])).map (.under i)
        else []
      | none => []) ++
    if role.passes (key, s) then entriesTags policy role above (i + 1) rest else []

/-- The tags that are reached in entries of a list, counted from `i`. -/
def itemsTags (policy : Policy) (role : Role) (above : List String) (i : Nat) :
    List Source → List Place
  | [] => []
  | s :: rest =>
    (s.tags policy role above).map (.under i) ++ itemsTags policy role above (i + 1) rest

end

/-- Something is found at an element of a list, given its number counted from `i`, and the elements
in front of that one are passed. -/
def Met {α : Type} (passes : α → Prop) (found : Nat → α → Prop) (i : Nat) (l : List α) : Prop :=
  ∃ before x after, l = before ++ x :: after ∧ (∀ y ∈ before, passes y) ∧
    found (i + before.length) x

theorem not_met_nil {α : Type} {passes : α → Prop} {found : Nat → α → Prop} {i : Nat} :
    ¬ Met passes found i [] := by
  rintro ⟨before, _, _, split, _⟩
  cases before <;> cases split

theorem met_cons {α : Type} {passes : α → Prop} {found : Nat → α → Prop} {i : Nat} {x : α}
    {rest : List α} : Met passes found i (x :: rest) ↔
      found i x ∨ (passes x ∧ Met passes found (i + 1) rest) := by
  constructor
  · rintro ⟨before, y, after, split, passed, hy⟩
    cases before with
    | nil =>
      cases split
      exact .inl hy
    | cons b before =>
      cases split
      rw [List.forall_mem_cons] at passed
      refine .inr ⟨passed.1, before, y, after, rfl, passed.2, ?_⟩
      rwa [List.length_cons, Nat.add_comm before.length, ← Nat.add_assoc] at hy
  · rintro (hx | ⟨hx, before, y, after, rfl, passed, hy⟩)
    · exact ⟨[], x, rest, rfl, List.forall_mem_nil _, hx⟩
    · refine ⟨x :: before, y, after, rfl, List.forall_mem_cons.mpr ⟨hx, passed⟩, ?_⟩
      rwa [List.length_cons, Nat.add_comm before.length, ← Nat.add_assoc]

variable {policy : Policy} {role : Role} {above : List String} {t : Place}

/-- The tag is that of this entry of a mapping, or lies in its value. -/
def ReachedEntry (policy : Policy) (role : Role) (above : List String) (t : Place) (i : Nat)
    (e : String × Source) : Prop :=
  ∃ depth, role.tagDepth? e.1 = some depth ∧ (t = ⟨[i], above, e.1⟩ ∨
    policy.admits e.1 depth = true ∧
      ∃ u, Reached policy (.content depth) (above ++ [e.1]) e.2 u ∧ t = u.under i)

/-- The tag lies in this entry of a list. -/
def ReachedItem (policy : Policy) (role : Role) (above : List String) (t : Place) (i : Nat)
    (s : Source) : Prop :=
  ∃ u, Reached policy role above s u ∧ t = u.under i

theorem reached_mapping_iff {entries : List (String × Source)} :
    Reached policy role above (.ready (.mapping entries)) t ↔
      Met role.Passes (ReachedEntry policy role above t) 0 entries := by
  constructor
  · rintro (_ | ⟨passed, isTag⟩ | ⟨passed, isTag, admitted, reached⟩ | _)
    · exact ⟨_, _, _, rfl, passed, _, isTag, .inl (by rw [Nat.zero_add])⟩
    · exact ⟨_, _, _, rfl, passed, _, isTag, .inr ⟨admitted, _, reached, by rw [Nat.zero_add]⟩⟩
  · rintro ⟨before, ⟨key, s⟩, after, rfl, passed, depth, isTag, rfl | ⟨admitted, u, reached, rfl⟩⟩
    · rw [Nat.zero_add]
      exact .tag passed isTag
    · rw [Nat.zero_add]
      exact .within passed isTag admitted reached

theorem reached_list_iff {items : List Source} :
    Reached policy role above (.ready (.list items)) t ↔
      ∃ inner, role.inList? = some inner ∧
        Met (fun _ => True) (ReachedItem policy inner above t) 0 items := by
  constructor
  · rintro (_ | _ | _ | ⟨inside, reached⟩)
    exact ⟨_, inside, _, _, _, rfl, fun _ _ => trivial, _, reached, by rw [Nat.zero_add]⟩
  · rintro ⟨inner, inside, before, s, after, rfl, -, u, reached, rfl⟩
    rw [Nat.zero_add]
    exact .item inside reached

mutual

/-- What is listed is what is reached. -/
theorem mem_tags {role : Role} {above : List String} {t : Place} : ∀ {s : Source},
    t ∈ s.tags policy role above ↔ Reached policy role above s t
  | .ready _ => mem_valueTags
  | .pending _ => mem_pendingTags

theorem mem_pendingTags {role : Role} {above : List String} {t : Place} : ∀ {p : Pending},
    t ∈ p.tags policy role above ↔ Reached policy role above (.pending p) t
  | .deferred label yields s => by
    rw [Pending.tags, List.mem_map]
    constructor
    · rintro ⟨u, hu, rfl⟩
      exact .settled ((mem_tags (s := s)).mp hu)
    · rintro (reached | _ | _ | _)
      exact ⟨_, (mem_tags (s := s)).mpr reached, rfl⟩
  | .failing _ _ _ | .gate _ => ⟨nofun, nofun⟩

theorem mem_valueTags {role : Role} {above : List String} {t : Place} : ∀ {v : Value},
    t ∈ v.tags policy role above ↔ Reached policy role above (.ready v) t
  | .null | .boolean _ | .number _ | .text _ => ⟨nofun, nofun⟩
  | .mapping entries => mem_entriesTags.trans reached_mapping_iff.symm
  | .list items => by
    rw [reached_list_iff, Value.tags]
    cases role.inList? with
    | none => exact ⟨nofun, nofun⟩
    | some inner =>
      refine mem_itemsTags.trans ⟨fun h => ⟨inner, rfl, h⟩, ?_⟩
      rintro ⟨_, inside, h⟩
      cases inside
      exact h

theorem mem_entriesTags {role : Role} {above : List String} {t : Place} {i : Nat} :
    ∀ {entries : List (String × Source)}, t ∈ entriesTags policy role above i entries ↔
      Met role.Passes (ReachedEntry policy role above t) i entries
  | [] => iff_of_false nofun not_met_nil
  | (key, s) :: rest => by
    have inTail : (t ∈ if role.passes (key, s) then entriesTags policy role above (i + 1) rest
        else []) ↔ role.Passes (key, s) ∧
          Met role.Passes (ReachedEntry policy role above t) (i + 1) rest := by
      rw [← Role.passes_iff, ← mem_entriesTags]
      split <;> simp_all
    rw [met_cons, entriesTags, List.mem_append, inTail, ReachedEntry]
    refine or_congr_left ?_
    cases role.tagDepth? key with
    | none => exact ⟨nofun, nofun⟩
    | some depth =>
      have within : (t ∈ if policy.admits key depth then
          (s.tags policy (.content depth) (above ++ [key])).map (Place.under i) else []) ↔
            policy.admits key depth = true ∧
              ∃ u, Reached policy (.content depth) (above ++ [key]) s u ∧ t = u.under i := by
        split
        · rename_i admitted
          rw [List.mem_map]
          simp only [admitted, true_and, mem_tags (s := s), eq_comm]
        · rename_i refused
          exact ⟨nofun, fun h => absurd h.1 refused⟩
      rw [List.mem_cons, within]
      constructor
      · exact fun h => ⟨depth, rfl, h⟩
      · rintro ⟨_, same, h⟩
        cases same
        exact h

theorem mem_itemsTags {role : Role} {above : List String} {t : Place} {i : Nat} :
    ∀ {items : List Source}, t ∈ itemsTags policy role above i items ↔
      Met (fun _ => True) (ReachedItem policy role above t) i items
  | [] => iff_of_false nofun not_met_nil
  | s :: rest => by
    have inHead : t ∈ (s.tags policy role above).map (.under i) ↔
        ReachedItem policy role above t i s := by
      rw [List.mem_map]
      simp only [ReachedItem, mem_tags (s := s), eq_comm]
    rw [met_cons, itemsTags, List.mem_append, inHead, mem_itemsTags, true_and]

end

/-! ## Document order -/

/-- The tags stand in document order, each in one place. -/
def InOrder (ts : List Place) : Prop := ts.Pairwise (·.path < ·.path)

theorem InOrder.under {ts : List Place} (h : InOrder ts) (i : Nat) :
    InOrder (ts.map (.under i)) :=
  List.pairwise_map.mpr (h.imp fun lt => List.cons_lt_cons_iff.mpr (.inr ⟨rfl, lt⟩))

/-- The paths begin with numbers from `i` on. -/
def From (i : Nat) (ts : List Place) : Prop := ∀ t ∈ ts, ∃ j path, t.path = j :: path ∧ i ≤ j

/-- What stands in an entry comes before what stands in later ones. -/
theorem InOrder.append {ts later : List Place} {i : Nat} (h : InOrder ts)
    (numbered : ∀ t ∈ ts, ∃ path, t.path = i :: path) (hlater : InOrder later)
    (numbers : From (i + 1) later) : InOrder (ts ++ later) := by
  refine List.pairwise_append.mpr ⟨h, hlater, fun t ht u hu => ?_⟩
  obtain ⟨path, hpath⟩ := numbered t ht
  obtain ⟨j, path', hpath', lt⟩ := numbers u hu
  rw [hpath, hpath']
  exact List.cons_lt_cons_iff.mpr (.inl lt)

theorem path_of_mem_under {i : Nat} {ts : List Place} {t : Place} (h : t ∈ ts.map (.under i)) :
    ∃ path, t.path = i :: path := by
  obtain ⟨u, -, rfl⟩ := List.mem_map.mp h
  exact ⟨u.path, rfl⟩

theorem from_entriesTags (i : Nat) (entries : List (String × Source)) :
    From i (entriesTags policy role above i entries) := by
  intro t ht
  obtain ⟨before, e, _, -, -, _, -, rfl | ⟨-, u, -, rfl⟩⟩ := mem_entriesTags.mp ht
  · exact ⟨_, _, rfl, Nat.le_add_right i _⟩
  · exact ⟨_, _, rfl, Nat.le_add_right i _⟩

theorem from_itemsTags (i : Nat) (items : List Source) :
    From i (itemsTags policy role above i items) := by
  intro t ht
  obtain ⟨before, s, _, -, -, u, -, rfl⟩ := mem_itemsTags.mp ht
  exact ⟨_, _, rfl, Nat.le_add_right i _⟩

/-- A tag stands in an entry of the position. -/
theorem path_ne_nil {s : Source} (h : Reached policy role above s t) : t.path ≠ [] := by
  cases h <;> exact nofun

mutual

/-- What is listed is in document order. -/
theorem inOrder_tags {role : Role} {above : List String} : ∀ s : Source,
    InOrder (s.tags policy role above)
  | .ready v => inOrder_valueTags v
  | .pending p => inOrder_pendingTags p

theorem inOrder_pendingTags {role : Role} {above : List String} : ∀ p : Pending,
    InOrder (p.tags policy role above)
  | .deferred _ _ s => (inOrder_tags s).under 0
  | .failing _ _ _ | .gate _ => List.Pairwise.nil

theorem inOrder_valueTags {role : Role} {above : List String} : ∀ v : Value,
    InOrder (v.tags policy role above)
  | .null | .boolean _ | .number _ | .text _ => List.Pairwise.nil
  | .mapping entries => inOrder_entriesTags entries
  | .list items => by
    rw [Value.tags]
    split
    · exact inOrder_itemsTags items
    · exact List.Pairwise.nil

theorem inOrder_entriesTags {role : Role} {above : List String} {i : Nat} :
    ∀ entries : List (String × Source), InOrder (entriesTags policy role above i entries)
  | [] => List.Pairwise.nil
  | (key, s) :: rest => by
    have later : InOrder
        (if role.passes (key, s) then entriesTags policy role above (i + 1) rest else []) := by
      split
      · exact inOrder_entriesTags rest
      · exact List.Pairwise.nil
    have numbers : From (i + 1)
        (if role.passes (key, s) then entriesTags policy role above (i + 1) rest else []) := by
      split
      · exact from_entriesTags (i + 1) rest
      · exact List.forall_mem_nil _
    rw [entriesTags]
    split
    · rename_i depth _
      -- The tag itself stands in front of those in its value.
      refine InOrder.append (i := i) (List.pairwise_cons.mpr ⟨?_, ?_⟩) ?_ later numbers
      · intro u hu
        split at hu
        · obtain ⟨v, hv, rfl⟩ := List.mem_map.mp hu
          obtain ⟨j, path, hpath⟩ := List.exists_cons_of_ne_nil (path_ne_nil (mem_tags.mp hv))
          refine List.cons_lt_cons_iff.mpr (.inr ⟨rfl, ?_⟩)
          rw [hpath]
          exact List.nil_lt_cons j path
        · cases hu
      · split
        · exact (inOrder_tags s).under i
        · exact List.Pairwise.nil
      · refine List.forall_mem_cons.mpr ⟨⟨[], rfl⟩, fun u hu => ?_⟩
        split at hu
        · exact path_of_mem_under hu
        · cases hu
    · exact later

theorem inOrder_itemsTags {role : Role} {above : List String} {i : Nat} : ∀ items : List Source,
    InOrder (itemsTags policy role above i items)
  | [] => List.Pairwise.nil
  | s :: rest =>
    ((inOrder_tags s).under i).append (fun _ => path_of_mem_under) (inOrder_itemsTags rest)
      (from_itemsTags (i + 1) rest)

end

end JsonMarkup
