import JsonMarkup.Css.Style
import JsonMarkup.Proofs.Fields

/-!
# What has become of a style

A style is changed by assigning raw text, by merging properties and by removing them. What it holds
after any changes can be told from the list of changes, without going through the styles in between.

**Theorem (`after_changes`).** A property has the value that it was last set to, under any spelling
of its name, unless it has been removed or raw text has been assigned since; the raw text is the one
that was last assigned. The properties stand in the order in which each came in, that is, was last
set while it was absent. The declarations are the raw text, stripped, and the properties in their
order.
-/

namespace JsonMarkup

/-! ## The last one of a kind -/

section

variable {α : Type} {p : α → Prop} {l : List α} {a x : α}

/-- The last element of a list that satisfies `p` is `x`. -/
def LastOf (p : α → Prop) (l : List α) (x : α) : Prop :=
  ∃ before later, l = before ++ x :: later ∧ p x ∧ ∀ y ∈ later, ¬ p y

theorem not_lastOf_nil : ¬ LastOf p [] x := by
  rintro ⟨before, later, split, -⟩
  exact List.append_ne_nil_of_right_ne_nil before (List.cons_ne_nil x later) split.symm

theorem lastOf_concat : LastOf p (l ++ [a]) x ↔ (p a ∧ x = a) ∨ (¬ p a ∧ LastOf p l x) := by
  constructor
  · rintro ⟨before, later, split, hx, none⟩
    rcases List.eq_nil_or_concat later with rfl | ⟨later, b, rfl⟩
    · obtain ⟨-, same⟩ := List.append_inj' split rfl
      obtain rfl : a = x := List.singleton_inj.mp same
      exact .inl ⟨hx, rfl⟩
    · rw [List.concat_eq_append] at split none
      rw [← List.cons_append, ← List.append_assoc] at split
      obtain ⟨rfl, same⟩ := List.append_inj' split rfl
      obtain rfl : a = b := List.singleton_inj.mp same
      have others : ∀ y ∈ later, ¬ p y := fun y hy => none y (List.mem_append_left _ hy)
      exact .inr ⟨none a (List.mem_append_right _ (List.mem_singleton_self a)),
        before, later, rfl, hx, others⟩
  · rintro (⟨ha, rfl⟩ | ⟨ha, before, later, rfl, hx, none⟩)
    · exact ⟨l, [], rfl, ha, nofun⟩
    · refine ⟨before, later ++ [a], by rw [List.append_assoc, List.cons_append], hx, ?_⟩
      rw [List.forall_mem_append, List.forall_mem_singleton]
      exact ⟨none, ha⟩

end

namespace Style

open Css Text

/-! ## Changes -/

/-- Something that is done to a style. -/
inductive Change where
  /-- Replace the whole style by raw text. -/
  | text (text : String)
  | set (name value : String)
  | remove (name : String)

def change (s : Style) : Change → Style
  | .text text => s.setText text
  | .set name value => s.setProperty name value
  | .remove name => s.removeProperty name

/-- The style that changes make of the empty one, the first change first. -/
def after (changes : List Change) : Style := changes.foldl change empty

/-- The change says what becomes of the property of this name: it sets it under some spelling of the
name, removes it under some spelling, or discards all properties. -/
def Change.Decides (name : String) : Change → Prop
  | .text _ => True
  | .set n _ => propertyName n = propertyName name
  | .remove n => propertyName n = propertyName name

def Change.IsText : Change → Prop
  | .text _ => True
  | _ => False

/-- The property of this style-sheet name comes in with the change at this place: it is set there
while it is absent. -/
def ComesIn (changes : List Change) (name : String) (place : Nat) : Prop :=
  ∃ n v, changes[place]? = some (.set n v) ∧ propertyName n = name ∧
    name ∉ (after (changes.take place)).properties.names

/-- The last place at which the property comes in. -/
def LastComesIn (changes : List Change) (name : String) (place : Nat) : Prop :=
  ComesIn changes name place ∧ ∀ later, ComesIn changes name later → later ≤ place

/-- The first property was last absent before the second one was. -/
def ComesInBefore (changes : List Change) (a b : String) : Prop :=
  ∃ i j, LastComesIn changes a i ∧ LastComesIn changes b j ∧ i < j

section

variable {changes : List Change} {c : Change} {name n v t : String} {place : Nat}

theorem after_concat (changes : List Change) (c : Change) :
    after (changes ++ [c]) = (after changes).change c := by
  rw [after, List.foldl_append]
  rfl

/-! ## Values -/

theorem property?_text (s : Style) (t n : String) : (s.change (.text t)).property? n = none := rfl

theorem property?_set (s : Style) (m v n : String) : (s.change (.set m v)).property? n =
    if propertyName n = propertyName m then some v else s.property? n :=
  Fields.get?_set ..

theorem property?_remove (s : Style) (m n : String) : (s.change (.remove m)).property? n =
    if propertyName n = propertyName m then none else s.property? n :=
  Fields.get?_erase ..

/-- A property has the value that it was set to by the last change that says what becomes of it. -/
theorem property?_after : (after changes).property? n = some v ↔
    ∃ m, LastOf (Change.Decides n) changes (.set m v) := by
  induction changes using List.reverseRecOn with
  | nil => exact iff_of_false nofun fun ⟨_, last⟩ => not_lastOf_nil last
  | append_singleton changes c ih =>
    rw [after_concat]
    simp only [lastOf_concat, exists_or, exists_and_left, ← ih]
    cases c with
    | text t => simp [property?_text, Change.Decides]
    | set m w =>
      rw [property?_set]
      by_cases same : propertyName m = propertyName n
      · simp [Change.Decides, same, eq_comm]
      · simp [Change.Decides, same, Ne.symm same]
    | remove m =>
      rw [property?_remove]
      by_cases same : propertyName m = propertyName n
      · simp [Change.Decides, same]
      · simp [Change.Decides, same, Ne.symm same]

theorem text_after : (after changes).text = some t ↔ LastOf Change.IsText changes (.text t) := by
  induction changes using List.reverseRecOn with
  | nil => exact iff_of_false nofun not_lastOf_nil
  | append_singleton changes c ih =>
    rw [after_concat, lastOf_concat, ← ih]
    cases c with
    | text s => simp [change, setText, Change.IsText, eq_comm]
    | set m w => simp [change, setProperty, Change.IsText]
    | remove m => simp [change, removeProperty, Change.IsText]

/-! ## Order -/

theorem names_text (s : Style) (t : String) : (s.change (.text t)).properties.names = [] := rfl

theorem names_set (s : Style) (m v : String) : (s.change (.set m v)).properties.names =
    if propertyName m ∈ s.properties.names then s.properties.names
    else s.properties.names ++ [propertyName m] :=
  Fields.names_set ..

theorem names_remove (s : Style) (m : String) : (s.change (.remove m)).properties.names =
    s.properties.names.filter (· != propertyName m) :=
  Fields.names_erase ..

theorem ComesIn.lt (h : ComesIn changes name place) : place < changes.length := by
  obtain ⟨n, v, found, -⟩ := h
  exact (List.getElem?_eq_some_iff.mp found).1

theorem comesIn_concat : ComesIn (changes ++ [c]) name place ↔ ComesIn changes name place ∨
    (place = changes.length ∧ ∃ n v, c = .set n v ∧ propertyName n = name ∧
      name ∉ (after changes).properties.names) := by
  rcases Nat.lt_trichotomy place changes.length with earlier | rfl | later
  · have other : ¬ place = changes.length := Nat.ne_of_lt earlier
    simp only [ComesIn, List.getElem?_append_left earlier,
      List.take_append_of_le_length (Nat.le_of_lt earlier), other, false_and, or_false]
  · have none : ¬ ComesIn changes name changes.length := fun h => Nat.lt_irrefl _ h.lt
    simp only [none, false_or, true_and]
    simp only [ComesIn, List.getElem?_concat_length, List.take_left, Option.some_inj]
  · refine iff_of_false (fun h => ?_) ?_
    · have within := h.lt
      rw [List.length_append, List.length_singleton] at within
      omega
    · rintro (h | ⟨rfl, -⟩)
      · exact Nat.lt_asymm h.lt later
      · exact Nat.lt_irrefl _ later

/-- A property that is there does not come in. -/
theorem LastComesIn.concat (h : LastComesIn changes name place)
    (present : name ∈ (after changes).properties.names) (c : Change) :
    LastComesIn (changes ++ [c]) name place := by
  refine ⟨comesIn_concat.mpr (.inl h.1), fun later again => ?_⟩
  rcases comesIn_concat.mp again with again | ⟨-, -, -, -, -, absent⟩
  · exact h.2 later again
  · exact absurd present absent

theorem lastComesIn_concat_self (absent : propertyName n ∉ (after changes).properties.names) :
    LastComesIn (changes ++ [.set n v]) (propertyName n) changes.length := by
  refine ⟨comesIn_concat.mpr (.inr ⟨rfl, n, v, rfl, rfl, absent⟩), fun later again => ?_⟩
  rcases comesIn_concat.mp again with again | ⟨rfl, -⟩
  · exact Nat.le_of_lt again.lt
  · exact Nat.le_refl _

/-- Each of the names comes in somewhere, and they stand in the order in which they last do. -/
structure InOrder (changes : List Change) (names : List String) : Prop where
  comesIn : ∀ name ∈ names, ∃ place, LastComesIn changes name place
  ordered : names.Pairwise (ComesInBefore changes)

/-- A change does not touch the order of the properties that it leaves. -/
theorem InOrder.concat {left : List String}
    (h : InOrder changes (after changes).properties.names)
    (sub : left.Sublist (after changes).properties.names) (c : Change) :
    InOrder (changes ++ [c]) left where
  comesIn name mem := by
    obtain ⟨place, last⟩ := h.comesIn name (sub.subset mem)
    exact ⟨place, last.concat (sub.subset mem) c⟩
  ordered := by
    refine (h.ordered.sublist sub).imp_of_mem fun ha hb before => ?_
    obtain ⟨i, j, first, second, less⟩ := before
    exact ⟨i, j, first.concat (sub.subset ha) c, second.concat (sub.subset hb) c, less⟩

theorem inOrder_after (changes : List Change) :
    InOrder changes (after changes).properties.names := by
  induction changes using List.reverseRecOn with
  | nil => exact ⟨nofun, .nil⟩
  | append_singleton changes c ih =>
    rw [after_concat]
    cases c with
    | text t =>
      rw [names_text]
      exact ⟨nofun, .nil⟩
    | remove m =>
      rw [names_remove]
      exact ih.concat List.filter_sublist _
    | set m v =>
      rw [names_set]
      have kept := ih.concat (List.Sublist.refl _) (.set m v)
      split
      · exact kept
      · rename_i absent
        have last := lastComesIn_concat_self (v := v) absent
        constructor
        · rw [List.forall_mem_append, List.forall_mem_singleton]
          exact ⟨kept.comesIn, _, last⟩
        · refine List.pairwise_append.mpr ⟨kept.ordered, List.pairwise_singleton _ _, ?_⟩
          intro a ha b hb
          obtain rfl := List.mem_singleton.mp hb
          obtain ⟨i, first⟩ := ih.comesIn a ha
          exact ⟨i, _, first.concat ha _, last, first.1.lt⟩

/-! ## Nothing at all -/

theorem text_eq_none_iff : (after changes).text = none ↔ ∀ t, .text t ∉ changes := by
  induction changes using List.reverseRecOn with
  | nil => exact iff_of_true rfl nofun
  | append_singleton changes c ih =>
    rw [after_concat]
    cases c with
    | text t => exact iff_of_false nofun fun absent => absent t (by simp)
    | set m w => simp [change, setProperty, ih]
    | remove m => simp [change, removeProperty, ih]

/-- A property is kept under the style-sheet form of a name. -/
theorem property?_eq_some_iff {s : Style} :
    s.property? n = some v ↔ (propertyName n, v) ∈ s.properties.toList :=
  Fields.get?_eq_some_iff

theorem properties_eq_nil_iff :
    (after changes).properties.toList = [] ↔ ∀ n, (after changes).property? n = none := by
  constructor
  · intro nothing n
    refine Option.eq_none_iff_forall_ne_some.mpr fun v found => ?_
    rw [property?_eq_some_iff, nothing] at found
    cases found
  · intro absent
    refine List.eq_nil_iff_forall_not_mem.mpr fun e mem => ?_
    have named : e.1 ∈ (after changes).properties.names := List.mem_map_of_mem mem
    obtain ⟨_, ⟨n, v, -, spelled, -⟩, -⟩ := (inOrder_after changes).comesIn e.1 named
    have found : (after changes).property? n = some e.2 := by
      rw [property?_eq_some_iff, spelled]
      exact mem
    rw [absent n] at found
    cases found

theorem isEmpty_after : (after changes).isEmpty = true ↔
    (∀ t, .text t ∉ changes) ∧ ∀ n, (after changes).property? n = none := by
  rw [isEmpty, Bool.and_eq_true, Option.isNone_iff_eq_none, text_eq_none_iff, Fields.isEmpty,
    List.isEmpty_iff, properties_eq_nil_iff]

end

/-! ## Declarations -/

/-- What is left of a text without the blanks around it and then without the semicolons at its
end. -/
inductive Stripped : List Char → List Char → Prop
  | intro {lead body semicolons trail : List Char} (before : ∀ c ∈ lead, isBlank c = true)
    (behind : ∀ c ∈ trail, isBlank c = true)
    (starts : ∀ c ∈ (body ++ semicolons).head?, isBlank c = false)
    (ends : ∀ c ∈ (body ++ semicolons).getLast?, isBlank c = false)
    (closing : ∀ c ∈ semicolons, c = ';') (stops : body.getLast? ≠ some ';') :
    Stripped (lead ++ (body ++ semicolons) ++ trail) body

/-- The declaration that raw text is, if it is one. -/
inductive RawDeclaration : Option String → List String → Prop
  | none : RawDeclaration none []
  | blank {text : String} : Stripped text.toList [] → RawDeclaration (some text) []
  | some {text body : String} : Stripped text.toList body.toList → body ≠ "" →
    RawDeclaration (some text) [body]

theorem getLast?_dropTailWhile (p : Char → Bool) (cs : List Char) :
    ∀ c ∈ (dropTailWhile p cs).getLast?, p c = false := by
  intro c last
  rw [dropTailWhile, List.getLast?_reverse] at last
  have stopped := List.head?_dropWhile_not p cs.reverse
  rw [last] at stopped
  exact stopped

/-- What is left of a text that begins with no blank begins with none. -/
theorem head?_of_dropTailWhile {p q : Char → Bool} {cs : List Char}
    (starts : ∀ c ∈ cs.head?, q c = false) : ∀ c ∈ (dropTailWhile p cs).head?, q c = false := by
  obtain ⟨tail, split, -⟩ := dropTailWhile_append p cs
  intro c first
  refine starts c ?_
  obtain ⟨rest, left⟩ := List.head?_eq_some_iff.mp first
  rw [split, left]
  rfl

theorem stripped_trimText (t : String) : Stripped t.toList (trimText t).toList := by
  have starts : ∀ c ∈ (t.toList.dropWhile isBlank).head?, isBlank c = false := by
    intro c first
    have stopped := List.head?_dropWhile_not isBlank t.toList
    rw [first] at stopped
    exact stopped
  obtain ⟨trail, outer, behind⟩ := dropTailWhile_append isBlank (t.toList.dropWhile isBlank)
  obtain ⟨semicolons, inner, closing⟩ := dropTailWhile_append (· == ';') (trim t.toList)
  have whole : t.toList = t.toList.takeWhile isBlank ++
      (dropTailWhile (· == ';') (trim t.toList) ++ semicolons) ++ trail := by
    rw [← inner, List.append_assoc, trim, ← outer, List.takeWhile_append_dropWhile]
  rw [trimText, String.toList_ofList]
  conv => lhs; rw [whole]
  refine .intro ?_ behind ?_ ?_ ?_ ?_
  · exact fun c hc => List.all_eq_true.mp List.all_takeWhile c hc
  · rw [← inner]
    exact head?_of_dropTailWhile starts
  · rw [← inner]
    exact getLast?_dropTailWhile isBlank _
  · exact fun c hc => beq_iff_eq.mp (closing c hc)
  · intro last
    exact absurd (getLast?_dropTailWhile (· == ';') _ _ last) (by decide)

theorem rawDeclaration_trimText (text : Option String) :
    RawDeclaration text ((text.map trimText).toList.filter (· ≠ "")) := by
  cases text with
  | none => exact .none
  | some t =>
    have stripped := stripped_trimText t
    by_cases nothing : trimText t = ""
    · rw [nothing] at stripped
      simpa [nothing] using RawDeclaration.blank stripped
    · simpa [nothing] using RawDeclaration.some stripped nothing

/-! ## The theorem -/

/-- **A style after any changes.** Values, raw text, order and declarations are those that the list
of changes tells. -/
theorem after_changes (changes : List Change) :
    (∀ n v, (after changes).property? n = some v ↔
      ∃ m, LastOf (Change.Decides n) changes (.set m v)) ∧
    (∀ t, (after changes).text = some t ↔ LastOf Change.IsText changes (.text t)) ∧
    (after changes).properties.names.Nodup ∧
    InOrder changes (after changes).properties.names ∧
    ((after changes).isEmpty = true ↔
      (∀ t, .text t ∉ changes) ∧ ∀ n, (after changes).property? n = none) ∧
    ∃ (raw : List String) (properties : List (String × String)),
      RawDeclaration (after changes).text raw ∧
      properties.map Prod.fst = (after changes).properties.names ∧
      (∀ n v, (after changes).property? n = some v ↔ (propertyName n, v) ∈ properties) ∧
      (after changes).toCss =
        "; ".intercalate (raw ++ properties.map fun p => p.1 ++ ": " ++ p.2) := by
  refine ⟨fun n v => property?_after, fun t => text_after, (after changes).properties.distinct,
    inOrder_after changes, isEmpty_after, ?_⟩
  exact ⟨_, _, rawDeclaration_trimText _, rfl, fun n v => property?_eq_some_iff, rfl⟩

example : (after [.set "color" "red", .text " margin: 0; ; ", .set "fontWeight" "bold",
    .set "WebkitTransition" "none", .set "-webkit-transition" "all", .remove "font-weight",
    .set "fontWeight" "normal"]).toCss =
      "margin: 0; ; -webkit-transition: all; font-weight: normal" := by
  decide +kernel

end Style

end JsonMarkup
