import JsonMarkup.Proofs.Render.Entry
import JsonMarkup.Proofs.Source.Role
import Mathlib.Data.List.Lex

/-!
# Pending values that are wanted

Which of the pending values of a document a rendering waits for, and in which order, can be said
without rendering it. A pending value stands at a path, the numbers of the entries on the way down
to it; what a value settles to stands below it, as its only entry. The order of paths is document
order.

**What is wanted** (`Wanted`). A pending value is wanted unless it lies in the value of a tag that
is not let through or cannot be written, behind an attribute of the same element that cannot be
used, or behind a faulty property of the same style. A property without a name is not looked into
either.

**Main statements.** `Source.waits` lists the pending values that are wanted (`mem_waits`), in
document order (`ordered_waits`); what a value settles to comes right after it (`chained_waits`).
-/

namespace JsonMarkup

/-- A pending value and where it stands in a document. -/
structure Wait where
  /-- The numbers of the entries on the way down to it. -/
  path : List Nat
  pending : Pending

/-- The same in an entry of this number. -/
def Wait.under (i : Nat) (w : Wait) : Wait := ⟨i :: w.path, w.pending⟩

/-- The policy lets the tag through, and the tag can be written. -/
def Policy.admits (policy : Policy) (tag : String) (depth : Nat) : Bool :=
  match policy.check tag depth with
  | .ok () => Text.isName tag
  | .error _ => false

namespace Render

/-! ## Attributes and properties that can be used -/

/-- A property can use what its value comes to: a text, a number, a boolean or nothing. -/
def isScalar : Except String Value → Bool
  | .ok v => (propertyValue? v).isSome
  | .error _ => false

/-- The property can be used: it has a name and a scalar value. -/
def usable (p : String × Source) : Bool := p.1 ≠ "" && isScalar p.2.outcome

/-- An attribute of this name can use what its value comes to. -/
def takes (name : String) : Except String Value → Bool
  | .ok (.text _) => name = textName || name = styleName || Text.isName name
  | .ok (.mapping properties) => name = styleName && properties.all usable
  | _ => false

/-- The entry of a mapping does not end the element. -/
def acceptable (entry : String × Source) : Bool :=
  match attributeName? entry.1 with
  | some name => takes name entry.2.outcome
  | none => true

theorem usable_iff {p : String × Source} : usable p = true ↔ ∃ c, ReadsChange p c := by
  obtain ⟨name, s⟩ := p
  constructor
  · intro h
    unfold usable at h
    rw [Bool.and_eq_true, decide_eq_true_iff] at h
    obtain ⟨named, h⟩ := h
    cases hs : s.outcome with
    | error reason => simp [hs, isScalar] at h
    | ok v =>
      rw [hs] at h
      obtain ⟨change, hv⟩ := Option.isSome_iff_exists.mp h
      exact ⟨_, .scalar named hs hv⟩
  · rintro ⟨c, hc⟩
    cases hc with
    | scalar named resolved scalar => simp [usable, isScalar, named, resolved, scalar]

/-- All properties can be used. -/
theorem all_usable_iff {properties : List (String × Source)} :
    properties.all usable = true ↔ ∃ cs, List.Forall₂ ReadsChange properties cs := by
  induction properties with
  | nil => exact ⟨fun _ => ⟨[], .nil⟩, fun _ => rfl⟩
  | cons p more ih =>
    rw [List.all_cons, Bool.and_eq_true, usable_iff, ih]
    constructor
    · rintro ⟨⟨c, hc⟩, cs, hcs⟩
      exact ⟨c :: cs, .cons hc hcs⟩
    · rintro ⟨_, hcs⟩
      cases hcs with
      | cons hc hcs => exact ⟨⟨_, hc⟩, _, hcs⟩

theorem acceptable_attribute (name : String) (s : Source) :
    acceptable ("$" ++ name, s) = takes name s.outcome := by
  rw [acceptable, attributeName?_eq_some_iff.mpr rfl]

theorem acceptable_of_reads {entry : String × Source} {part : Part} (h : Reads entry part) :
    acceptable entry = true := by
  cases h with
  | text resolved =>
    show acceptable ("$" ++ textName, _) = true
    rw [acceptable_attribute, resolved]
    rfl
  | rawStyle resolved =>
    show acceptable ("$" ++ styleName, _) = true
    rw [acceptable_attribute, resolved]
    rfl
  | changes resolved reads =>
    show acceptable ("$" ++ styleName, _) = true
    rw [acceptable_attribute, resolved, takes, Bool.and_eq_true]
    exact ⟨rfl, all_usable_iff.mpr ⟨_, reads⟩⟩
  | named text style named resolved =>
    rw [acceptable_attribute, resolved, takes, named, Bool.or_true]
  | child notNamed => rw [acceptable, notNamed]

theorem takes_eq_false_of_fault {tag name : String} {s : Source} {error : RenderError}
    (h : Fault tag name s error) : takes name s.outcome = false := by
  cases h with
  | unresolved resolved => rw [resolved]; rfl
  | @text _ value resolved notText =>
    rw [resolved]
    cases value with
    | text t => exact absurd rfl (notText t)
    | mapping properties => simp [takes, styleName]
    | _ => rfl
  | @style _ value resolved notText notMapping =>
    rw [resolved]
    cases value with
    | text t => exact absurd rfl (notText t)
    | mapping properties => exact absurd rfl (notMapping properties)
    | _ => rfl
  | @property _ before after p cs error resolved reads fault =>
    have faulty : (before ++ p :: after).all usable = false := by
      rw [Bool.eq_false_iff]
      intro all
      obtain ⟨_, reads_all⟩ := all_usable_iff.mp all
      have fails : merged (Element.new tag) (before ++ p :: after) = .error error :=
        (merged_of_reads reads).trans (merged_of_fault fault)
      have merges : merged (Element.new tag) ((before ++ p :: after) ++ []) = _ :=
        merged_of_reads reads_all
      rw [List.append_nil, fails] at merges
      cases merges
    rw [resolved, takes, faulty, Bool.and_false]
  | @named _ _ value text style resolved unsuitable =>
    rw [resolved]
    cases value with
    | text t =>
      have named : Text.isName name = false := unsuitable.resolve_right fun h => h t rfl
      simp [takes, textName, styleName, text, style, named]
    | mapping properties => simp [takes, styleName, style]
    | _ => rfl

theorem acceptable_iff {entry : String × Source} : acceptable entry = true ↔ Acceptable entry := by
  obtain ⟨key, s⟩ := entry
  refine ⟨fun h => ?_, fun ⟨part, reads⟩ => acceptable_of_reads reads⟩
  cases hkey : attributeName? key with
  | none => exact ⟨_, .child hkey⟩
  | some name =>
    rw [attributeName?_eq_some_iff] at hkey
    subst hkey
    rw [acceptable_attribute] at h
    refine (acceptable_or_fault "" name s).resolve_right ?_
    rintro ⟨error, fault⟩
    rw [takes_eq_false_of_fault fault] at h
    cases h

end Render

open Render

/-! ## What is looked into -/

/-- The role of the value under this key of a mapping, if it is looked into. -/
def Role.under? (policy : Policy) (key : String) : Role → Option Role
  | .fragment depth => if policy.admits key depth then some (.content depth) else none
  | .content depth =>
    match attributeName? key with
    | some name => some (.attribute name)
    | none => if policy.admits key (depth + 1) then some (.content (depth + 1)) else none
  | .attribute name => if name = styleName ∧ key ≠ "" then some .property else none
  | .property => none

/-- The role of the entries of a list, if they are looked into. -/
def Role.inList? : Role → Option Role
  | .content depth => some (.fragment (depth + 1))
  | _ => none

/-- The entries behind this one in a mapping are looked at. -/
def Role.Passes : Role → String × Source → Prop
  | .content _, entry => Acceptable entry
  | .attribute _, p => ∃ change, ReadsChange p change
  | _, _ => True

def Role.passes : Role → String × Source → Bool
  | .content _, entry => acceptable entry
  | .attribute _, p => usable p
  | _, _ => true

theorem Role.passes_iff : ∀ {role : Role} {entry : String × Source},
    role.passes entry = true ↔ role.Passes entry
  | .content _, _ => acceptable_iff
  | .attribute _, _ => usable_iff
  | .fragment _, _ | .property, _ => ⟨fun _ => trivial, fun _ => rfl⟩

/-- A pending value in a position that a rendering has to wait for. -/
inductive Wanted (policy : Policy) : Role → Source → Wait → Prop
  | here {role : Role} {p : Pending} : Wanted policy role (.pending p) ⟨[], p⟩
  | settled {role : Role} {label : Option String} {yields : Nat} {s : Source} {w : Wait} :
    Wanted policy role s w → Wanted policy role (.pending (.deferred label yields s)) (w.under 0)
  | entry {role inner : Role} {before after : List (String × Source)} {key : String} {s : Source}
    {w : Wait} : (∀ e ∈ before, role.Passes e) → role.under? policy key = some inner →
    Wanted policy inner s w →
    Wanted policy role (.ready (.mapping (before ++ (key, s) :: after))) (w.under before.length)
  | item {role inner : Role} {before after : List Source} {s : Source} {w : Wait} :
    role.inList? = some inner → Wanted policy inner s w →
    Wanted policy role (.ready (.list (before ++ s :: after))) (w.under before.length)

/-! ## The list of what is wanted -/

mutual

/-- The pending values in a position that are wanted, in document order. -/
def Source.waits (policy : Policy) (role : Role) : Source → List Wait
  | .ready v => v.waits policy role
  | .pending p => p.waits policy role

/-- A pending value and those in what it settles to. -/
def Pending.waits (policy : Policy) (role : Role) : Pending → List Wait
  | .deferred label yields s =>
    ⟨[], .deferred label yields s⟩ :: (s.waits policy role).map (.under 0)
  | .failing label yields reason => [⟨[], .failing label yields reason⟩]
  | .gate id => [⟨[], .gate id⟩]

/-- The pending values in a value that are wanted. -/
def Value.waits (policy : Policy) (role : Role) : Value → List Wait
  | .mapping entries => entriesWaits policy role 0 entries
  | .list items =>
    match role.inList? with
    | some inner => itemsWaits policy inner 0 items
    | none => []
  | _ => []

/-- The pending values in entries of a mapping, counted from `i`, that are wanted. -/
def entriesWaits (policy : Policy) (role : Role) (i : Nat) : List (String × Source) → List Wait
  | [] => []
  | (key, s) :: rest =>
    (match role.under? policy key with
      | some inner => (s.waits policy inner).map (.under i)
      | none => []) ++
    if role.passes (key, s) then entriesWaits policy role (i + 1) rest else []

/-- The pending values in entries of a list, counted from `i`, that are wanted. -/
def itemsWaits (policy : Policy) (role : Role) (i : Nat) : List Source → List Wait
  | [] => []
  | s :: rest => (s.waits policy role).map (.under i) ++ itemsWaits policy role (i + 1) rest

end

/-- A pending value is wanted in entries of a mapping, counted from `i`. -/
def WantedEntry (policy : Policy) (role : Role) (i : Nat) (entries : List (String × Source))
    (w : Wait) : Prop :=
  ∃ before key s after inner v, entries = before ++ (key, s) :: after ∧
    (∀ e ∈ before, role.Passes e) ∧ role.under? policy key = some inner ∧
    Wanted policy inner s v ∧ w = v.under (i + before.length)

/-- A pending value is wanted in entries of a list, counted from `i`. -/
def WantedItem (policy : Policy) (role : Role) (i : Nat) (items : List Source) (w : Wait) : Prop :=
  ∃ before s after v, items = before ++ s :: after ∧ Wanted policy role s v ∧
    w = v.under (i + before.length)

variable {policy : Policy}

theorem wantedEntry_cons {role : Role} {w : Wait} {i : Nat} {key : String} {s : Source}
    {rest : List (String × Source)} :
    WantedEntry policy role i ((key, s) :: rest) w ↔
      (∃ inner v, role.under? policy key = some inner ∧ Wanted policy inner s v ∧ w = v.under i) ∨
      (role.Passes (key, s) ∧ WantedEntry policy role (i + 1) rest w) := by
  constructor
  · rintro ⟨before, key', s', after, inner, v, split, passed, inside, wanted, rfl⟩
    cases before with
    | nil =>
      cases split
      exact .inl ⟨inner, v, inside, wanted, rfl⟩
    | cons e before =>
      cases split
      rw [List.forall_mem_cons] at passed
      refine .inr ⟨passed.1, before, key', s', after, inner, v, rfl, passed.2, inside, wanted, ?_⟩
      rw [List.length_cons, Nat.add_assoc, Nat.add_comm 1]
  · rintro (⟨inner, v, inside, wanted, rfl⟩ |
      ⟨passes, before, key', s', after, inner, v, rfl, passed, inside, wanted, rfl⟩)
    · exact ⟨[], key, s, rest, inner, v, rfl, List.forall_mem_nil _, inside, wanted, rfl⟩
    · refine ⟨(key, s) :: before, key', s', after, inner, v, rfl,
        List.forall_mem_cons.mpr ⟨passes, passed⟩, inside, wanted, ?_⟩
      rw [List.length_cons, Nat.add_assoc, Nat.add_comm 1]

theorem wantedItem_cons {role : Role} {w : Wait} {i : Nat} {s : Source} {rest : List Source} :
    WantedItem policy role i (s :: rest) w ↔
      (∃ v, Wanted policy role s v ∧ w = v.under i) ∨ WantedItem policy role (i + 1) rest w := by
  constructor
  · rintro ⟨before, s', after, v, split, wanted, rfl⟩
    cases before with
    | nil =>
      cases split
      exact .inl ⟨v, wanted, rfl⟩
    | cons e before =>
      cases split
      refine .inr ⟨before, s', after, v, rfl, wanted, ?_⟩
      rw [List.length_cons, Nat.add_assoc, Nat.add_comm 1]
  · rintro (⟨v, wanted, rfl⟩ | ⟨before, s', after, v, rfl, wanted, rfl⟩)
    · exact ⟨[], s, rest, v, rfl, wanted, rfl⟩
    · refine ⟨s :: before, s', after, v, rfl, wanted, ?_⟩
      rw [List.length_cons, Nat.add_assoc, Nat.add_comm 1]

theorem wanted_mapping_iff {role : Role} {w : Wait} {entries : List (String × Source)} :
    Wanted policy role (.ready (.mapping entries)) w ↔ WantedEntry policy role 0 entries w := by
  constructor
  · rintro (_ | _ | ⟨passed, inside, wanted⟩ | _)
    exact ⟨_, _, _, _, _, _, rfl, passed, inside, wanted, by rw [Nat.zero_add]⟩
  · rintro ⟨before, key, s, after, inner, v, rfl, passed, inside, wanted, rfl⟩
    rw [Nat.zero_add]
    exact .entry passed inside wanted

theorem wanted_list_iff {role : Role} {w : Wait} {items : List Source} :
    Wanted policy role (.ready (.list items)) w ↔
      ∃ inner, role.inList? = some inner ∧ WantedItem policy inner 0 items w := by
  constructor
  · rintro (_ | _ | _ | ⟨inside, wanted⟩)
    exact ⟨_, inside, _, _, _, _, rfl, wanted, by rw [Nat.zero_add]⟩
  · rintro ⟨inner, inside, before, s, after, v, rfl, wanted, rfl⟩
    rw [Nat.zero_add]
    exact .item inside wanted

/-- Where a pending value settles to nothing, only it is wanted. -/
theorem wanted_pending_iff {role : Role} {w : Wait} {p : Pending}
    (settles : ∀ label yields s, p ≠ .deferred label yields s) :
    Wanted policy role (.pending p) w ↔ w ∈ [⟨[], p⟩] := by
  rw [List.mem_singleton]
  constructor
  · rintro (_ | _ | _ | _)
    · rfl
    · exact absurd rfl (settles _ _ _)
  · rintro rfl
    exact .here

mutual

/-- What is listed is what is wanted. -/
theorem mem_waits {role : Role} {w : Wait} : ∀ {s : Source},
    w ∈ s.waits policy role ↔ Wanted policy role s w
  | .ready _ => mem_valueWaits
  | .pending _ => mem_pendingWaits

theorem mem_pendingWaits {role : Role} {w : Wait} : ∀ {p : Pending},
    w ∈ p.waits policy role ↔ Wanted policy role (.pending p) w
  | .deferred label yields s => by
    rw [Pending.waits, List.mem_cons, List.mem_map]
    constructor
    · rintro (rfl | ⟨v, hv, rfl⟩)
      · exact .here
      · exact .settled ((mem_waits (s := s)).mp hv)
    · rintro (_ | wanted | _ | _)
      · exact .inl rfl
      · exact .inr ⟨_, (mem_waits (s := s)).mpr wanted, rfl⟩
  | .failing _ _ _ => (wanted_pending_iff (by rintro _ _ _ ⟨⟩)).symm
  | .gate _ => (wanted_pending_iff (by rintro _ _ _ ⟨⟩)).symm

theorem mem_valueWaits {role : Role} {w : Wait} : ∀ {v : Value},
    w ∈ v.waits policy role ↔ Wanted policy role (.ready v) w
  | .null | .boolean _ | .number _ | .text _ => ⟨nofun, nofun⟩
  | .mapping entries => mem_entriesWaits.trans wanted_mapping_iff.symm
  | .list items => by
    rw [wanted_list_iff, Value.waits]
    cases role.inList? with
    | none => exact ⟨nofun, nofun⟩
    | some inner =>
      refine mem_itemsWaits.trans ⟨fun h => ⟨inner, rfl, h⟩, ?_⟩
      rintro ⟨_, inside, h⟩
      cases inside
      exact h

theorem mem_entriesWaits {role : Role} {w : Wait} {i : Nat} : ∀ {entries : List (String × Source)},
    w ∈ entriesWaits policy role i entries ↔ WantedEntry policy role i entries w
  | [] => by
    rw [entriesWaits]
    refine ⟨nofun, ?_⟩
    rintro ⟨before, _, _, _, _, _, split, _⟩
    cases before <;> cases split
  | (key, s) :: rest => by
    have inHead : (w ∈ match role.under? policy key with
          | some inner => (s.waits policy inner).map (Wait.under i)
          | none => []) ↔
        ∃ inner v, role.under? policy key = some inner ∧ Wanted policy inner s v ∧
          w = v.under i := by
      cases role.under? policy key with
      | none => exact ⟨nofun, nofun⟩
      | some inner =>
        rw [List.mem_map]
        constructor
        · rintro ⟨v, hv, rfl⟩
          exact ⟨inner, v, rfl, (mem_waits (s := s)).mp hv, rfl⟩
        · rintro ⟨_, v, inside, wanted, rfl⟩
          cases inside
          exact ⟨v, (mem_waits (s := s)).mpr wanted, rfl⟩
    have inTail : (w ∈ if role.passes (key, s) then entriesWaits policy role (i + 1) rest else []) ↔
        role.Passes (key, s) ∧ WantedEntry policy role (i + 1) rest w := by
      rw [← Role.passes_iff, ← mem_entriesWaits]
      split <;> simp_all
    rw [wantedEntry_cons, entriesWaits, List.mem_append, inHead, inTail]

theorem mem_itemsWaits {role : Role} {w : Wait} {i : Nat} : ∀ {items : List Source},
    w ∈ itemsWaits policy role i items ↔ WantedItem policy role i items w
  | [] => by
    rw [itemsWaits]
    refine ⟨nofun, ?_⟩
    rintro ⟨before, _, _, _, split, _⟩
    cases before <;> cases split
  | s :: rest => by
    have inHead : w ∈ (s.waits policy role).map (.under i) ↔
        ∃ v, Wanted policy role s v ∧ w = v.under i := by
      rw [List.mem_map]
      constructor
      · rintro ⟨v, hv, rfl⟩
        exact ⟨v, (mem_waits (s := s)).mp hv, rfl⟩
      · rintro ⟨v, wanted, rfl⟩
        exact ⟨v, (mem_waits (s := s)).mpr wanted, rfl⟩
    rw [wantedItem_cons, itemsWaits, List.mem_append, inHead, mem_itemsWaits]

end

/-! ## Document order -/

/-- The paths stand in document order. -/
def Ordered (ws : List Wait) : Prop := ws.Pairwise (·.path < ·.path)

theorem Ordered.under {ws : List Wait} (h : Ordered ws) (i : Nat) :
    Ordered (ws.map (.under i)) :=
  List.pairwise_map.mpr (h.imp fun lt => List.cons_lt_cons_iff.mpr (.inr ⟨rfl, lt⟩))

/-- What stands in an entry comes before what stands in later ones. -/
theorem Ordered.append {ws later : List Wait} {i : Nat} (h : Ordered ws) (hlater : Ordered later)
    (numbers : ∀ v ∈ later, ∃ j path, v.path = j :: path ∧ i < j) :
    Ordered (ws.map (.under i) ++ later) := by
  refine List.pairwise_append.mpr ⟨h.under i, hlater, fun u hu v hv => ?_⟩
  obtain ⟨u, -, rfl⟩ := List.mem_map.mp hu
  obtain ⟨j, path, hpath, lt⟩ := numbers v hv
  rw [hpath]
  exact List.cons_lt_cons_iff.mpr (.inl lt)

theorem path_entriesWaits {role : Role} {w : Wait} {i : Nat} {entries : List (String × Source)}
    (h : w ∈ entriesWaits policy role i entries) : ∃ j path, w.path = j :: path ∧ i ≤ j := by
  obtain ⟨before, _, _, _, _, v, -, -, -, -, rfl⟩ := mem_entriesWaits.mp h
  exact ⟨i + before.length, v.path, rfl, Nat.le_add_right i _⟩

theorem path_itemsWaits {role : Role} {w : Wait} {i : Nat} {items : List Source}
    (h : w ∈ itemsWaits policy role i items) : ∃ j path, w.path = j :: path ∧ i ≤ j := by
  obtain ⟨before, _, _, v, -, -, rfl⟩ := mem_itemsWaits.mp h
  exact ⟨i + before.length, v.path, rfl, Nat.le_add_right i _⟩

mutual

theorem ordered_waits {role : Role} : ∀ s : Source, Ordered (s.waits policy role)
  | .ready v => ordered_valueWaits v
  | .pending p => ordered_pendingWaits p

theorem ordered_pendingWaits {role : Role} : ∀ p : Pending, Ordered (p.waits policy role)
  | .deferred _ _ s => by
    refine List.pairwise_cons.mpr ⟨fun v hv => ?_, (ordered_waits s).under 0⟩
    obtain ⟨v, -, rfl⟩ := List.mem_map.mp hv
    exact List.nil_lt_cons 0 v.path
  | .failing _ _ _ | .gate _ => List.pairwise_singleton _ _

theorem ordered_valueWaits {role : Role} : ∀ v : Value, Ordered (v.waits policy role)
  | .null | .boolean _ | .number _ | .text _ => List.Pairwise.nil
  | .mapping entries => ordered_entriesWaits entries
  | .list items => by
    rw [Value.waits]
    split
    · exact ordered_itemsWaits items
    · exact List.Pairwise.nil

theorem ordered_entriesWaits {role : Role} {i : Nat} : ∀ entries : List (String × Source),
    Ordered (entriesWaits policy role i entries)
  | [] => List.Pairwise.nil
  | (key, s) :: rest => by
    have later : Ordered
        (if role.passes (key, s) then entriesWaits policy role (i + 1) rest else []) := by
      split
      · exact ordered_entriesWaits rest
      · exact List.Pairwise.nil
    rw [entriesWaits]
    split
    · refine (ordered_waits s).append later fun v hv => ?_
      split at hv
      · exact path_entriesWaits hv
      · cases hv
    · exact later

theorem ordered_itemsWaits {role : Role} {i : Nat} : ∀ items : List Source,
    Ordered (itemsWaits policy role i items)
  | [] => List.Pairwise.nil
  | s :: rest => (ordered_waits s).append (ordered_itemsWaits rest) fun _ hv => path_itemsWaits hv

end

/-! ## What a value settles to -/

/-- A pending value that settles to another pending value is followed at once by that one. -/
def Chained : List Wait → Prop
  | [] => True
  | w :: rest =>
    (∀ label yields p, w.pending = .deferred label yields (.pending p) →
      rest.head? = some ⟨w.path ++ [0], p⟩) ∧ Chained rest

theorem Chained.under {ws : List Wait} (h : Chained ws) (i : Nat) :
    Chained (ws.map (.under i)) := by
  induction ws with
  | nil => trivial
  | cons w rest ih =>
    refine ⟨fun label yields p hp => ?_, ih h.2⟩
    rw [List.head?_map, h.1 label yields p hp]
    rfl

theorem Chained.append {ws later : List Wait} (h : Chained ws) (hlater : Chained later) :
    Chained (ws ++ later) := by
  induction ws with
  | nil => exact hlater
  | cons w rest ih =>
    refine ⟨fun label yields p hp => ?_, ih h.2⟩
    show (rest ++ later).head? = _
    rw [List.head?_append, h.1 label yields p hp]
    rfl

mutual

theorem chained_waits {role : Role} : ∀ s : Source, Chained (s.waits policy role)
  | .ready v => chained_valueWaits v
  | .pending p => chained_pendingWaits p

theorem chained_pendingWaits {role : Role} : ∀ p : Pending, Chained (p.waits policy role)
  | .deferred _ _ s => by
    refine ⟨fun label yields p hp => ?_, (chained_waits s).under 0⟩
    cases hp
    cases p <;> rfl
  | .failing _ _ _ | .gate _ => ⟨nofun, trivial⟩

theorem chained_valueWaits {role : Role} : ∀ v : Value, Chained (v.waits policy role)
  | .null | .boolean _ | .number _ | .text _ => trivial
  | .mapping entries => chained_entriesWaits entries
  | .list items => by
    rw [Value.waits]
    split
    · exact chained_itemsWaits items
    · trivial

theorem chained_entriesWaits {role : Role} {i : Nat} : ∀ entries : List (String × Source),
    Chained (entriesWaits policy role i entries)
  | [] => trivial
  | (key, s) :: rest => by
    rw [entriesWaits]
    refine Chained.append ?_ ?_
    · split
      · exact (chained_waits s).under i
      · trivial
    · split
      · exact chained_entriesWaits rest
      · trivial

theorem chained_itemsWaits {role : Role} {i : Nat} : ∀ items : List Source,
    Chained (itemsWaits policy role i items)
  | [] => trivial
  | s :: rest => ((chained_waits s).under i).append (chained_itemsWaits rest)

end

end JsonMarkup
