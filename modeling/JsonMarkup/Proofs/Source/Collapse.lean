import JsonMarkup.Proofs.Fields
import JsonMarkup.Proofs.Json.Building
import JsonMarkup.Source.Data

/-!
# Documents from text, from a tree and from items

A document can be read from JSON text, converted from a JSON tree, or taken over from a data format
item by item. Reading a JSON tree loses repeated names, reading a document keeps them as entries,
so the three agree up to `Source.collapse`.

**Collapsing.** `Source.collapse` leaves, in every mapping at every level, each key where it first
stands with the value that it has where it last stands. It is stated on documents, without the
machinery with which trees are built (`collapseMembers_eq`), and taking the document of a tree
commutes with it (`ofJson_collapse`), since looking up a key commutes with changing the values.

**Main result.** `ways_agree`.
-/

namespace JsonMarkup

variable {α β : Type}

/-! ## Entries -/

theorem findField?_map (f : α → β) (name : String) (es : List (String × α)) :
    findField? name (es.map (Prod.map id f)) = (findField? name es).map f := by
  induction es with
  | nil => rfl
  | cons e rest ih =>
    obtain ⟨n, v⟩ := e
    by_cases same : n = name
    · simp [findField?, same]
    · simp [findField?, same, ih]

/-- What is done to all values may be done before or after collapsing. -/
theorem lastOfEach_map (f : α → β) (es : List (String × α)) :
    lastOfEach (es.map (Prod.map id f)) = (lastOfEach es).map (Prod.map id f) := by
  have names : (es.map (Prod.map id f)).map Prod.fst = es.map Prod.fst := by
    rw [List.map_map]
    rfl
  rw [lastOfEach, lastOfEach, names, List.map_filterMap, ← List.map_reverse]
  refine List.filterMap_congr fun name _ => ?_
  rw [findField?_map, Option.map_map, Option.map_map]
  rfl

theorem Json.collapseMembers_eq (members : List (String × α)) :
    Json.collapseMembers members = lastOfEach members :=
  (Fields.lists_ofList members).toList_eq

/-! ## Collapsing a document -/

mutual

/-- The document in which each key of a mapping, at every level, stands once: where it first stood,
with the value that it had last. -/
def Source.collapse : Source → Source
  | .ready v => .ready v.collapse
  | .pending p => .pending p.collapse

def Pending.collapse : Pending → Pending
  | .deferred label yields outcome => .deferred label yields outcome.collapse
  | .failing label yields reason => .failing label yields reason
  | .gate id => .gate id

def Value.collapse : Value → Value
  | .mapping entries => .mapping (lastOfEach (collapseEntries entries))
  | .list items => .list (collapseItems items)
  | v => v

/-- Collapse the document of each entry of a mapping. -/
def collapseEntries : List (String × Source) → List (String × Source)
  | [] => []
  | (key, s) :: rest => (key, s.collapse) :: collapseEntries rest

/-- Collapse the document of each entry of a list. -/
def collapseItems : List Source → List Source
  | [] => []
  | s :: rest => s.collapse :: collapseItems rest

end

/-! ## Trees as documents -/

namespace Source

theorem ofJsonItems_eq (items : List Json) : ofJsonItems items = items.map ofJson := by
  induction items with
  | nil => rfl
  | cons j rest ih => rw [ofJsonItems, ih, List.map_cons]

theorem ofJsonMembers_eq (members : List (String × Json)) :
    ofJsonMembers members = members.map (Prod.map id ofJson) := by
  induction members with
  | nil => rfl
  | cons e rest ih => rw [ofJsonMembers, ih, List.map_cons, Prod.map, id]

end Source

theorem Json.collapseAll_eq (items : List Json) : collapseAll items = items.map collapse := by
  induction items with
  | nil => rfl
  | cons j rest ih => rw [collapseAll, ih, List.map_cons]

theorem Json.collapseValues_eq (members : List (String × Json)) :
    collapseValues members = members.map (Prod.map id collapse) := by
  induction members with
  | nil => rfl
  | cons e rest ih => rw [collapseValues, ih, List.map_cons, Prod.map, id]

namespace Source

mutual

/-- A tree may be collapsed before or after it is taken as a document. -/
theorem ofJson_collapse (j : Json) : ofJson j.collapse = (ofJson j).collapse := by
  cases j with
  | array items =>
    rw [Json.collapse, ofJson, ofJsonItems_collapse items]
    rfl
  | object members =>
    rw [Json.collapse, ofJson, Json.collapseMembers_eq, ofJsonMembers_eq, ← lastOfEach_map,
      ← ofJsonMembers_eq, ofJsonMembers_collapse members]
    rfl
  | _ => rfl

theorem ofJsonItems_collapse (items : List Json) :
    ofJsonItems (Json.collapseAll items) = collapseItems (ofJsonItems items) := by
  cases items with
  | nil => rfl
  | cons j rest =>
    rw [Json.collapseAll, ofJsonItems, ofJsonItems, collapseItems, ofJson_collapse j,
      ofJsonItems_collapse rest]

theorem ofJsonMembers_collapse (members : List (String × Json)) :
    ofJsonMembers (Json.collapseValues members) = collapseEntries (ofJsonMembers members) := by
  cases members with
  | nil => rfl
  | cons e rest =>
    rw [Json.collapseValues, ofJsonMembers, ofJsonMembers, collapseEntries, ofJson_collapse e.2,
      ofJsonMembers_collapse rest]

end

/-! ## Trees as items -/

/-- The item of a number is taken over as the number. -/
theorem ofData_ofNumber (n : Number) : ofData (Data.ofNumber n) = .ok (.ready (.number n)) := by
  cases n <;> rfl

mutual

/-- No item of a tree is refused, and each is taken over as the document of the tree. -/
theorem ofData_ofJson (j : Json) : ofData (Data.ofJson j) = .ok (ofJson j) := by
  cases j with
  | number n => exact ofData_ofNumber n
  | array items =>
    rw [Data.ofJson, ofData, ofDataItems_ofJson items]
    rfl
  | object members =>
    rw [Data.ofJson, ofData, ofDataEntries_ofJson members]
    rfl
  | _ => rfl

theorem ofDataItems_ofJson (items : List Json) :
    ofDataItems (Data.ofJsonItems items) = .ok (ofJsonItems items) := by
  cases items with
  | nil => rfl
  | cons j rest =>
    rw [Data.ofJsonItems, ofDataItems, ofData_ofJson j, ofDataItems_ofJson rest]
    rfl

theorem ofDataEntries_ofJson (members : List (String × Json)) :
    ofDataEntries (Data.ofJsonMembers members) = .ok (ofJsonMembers members) := by
  cases members with
  | nil => rfl
  | cons e rest =>
    rw [Data.ofJsonMembers, ofDataEntries, Data.key, ofData_ofJson e.2, ofDataEntries_ofJson rest]
    rfl

end

/-! ## Reading -/

theorem builder_maps : Json.builder.Maps ofJson builder where
  scalar s := by cases s <;> rfl
  list items := by rw [← ofJsonItems_eq]; rfl
  object members := by rw [← ofJsonMembers_eq]; rfl

/-- A document is read as the document of the tree. -/
theorem read_eq (text : String) : read text = (Json.read text).map ofJson :=
  Json.readWith_map builder_maps none text

end Source

theorem Json.collapsingBuilder_maps : Json.builder.Maps Json.collapse Json.collapsingBuilder where
  scalar s := by cases s <;> rfl
  list items := by rw [← Json.collapseAll_eq]; rfl
  object members := by rw [← Json.collapseValues_eq]; rfl

/-- Texts that are not nested too deep are read as the collapsed tree. -/
theorem Json.readCollapsed_eq {text : String} (shallow : nesting text < nestingLimit) :
    readCollapsed text = (Json.read text).map collapse := by
  rw [readCollapsed, readWith_limit shallow, readWith_map collapsingBuilder_maps]
  rfl

/-- **The three ways agree.** A text with at most 127 arrays and objects within each other is
accepted as a document if and only if it is accepted as a tree. Then the document of the tree, and
the document that is taken over from its items, are the collapsed document of the text. -/
theorem Source.ways_agree (text : String) (shallow : Json.nesting text ≤ 127) :
    ((∃ s, Source.read text = .ok s) ↔ ∃ j, Json.readCollapsed text = .ok j) ∧
      ∀ j, Json.readCollapsed text = .ok j → ∃ s, Source.read text = .ok s ∧
        Source.ofJson j = s.collapse ∧ Source.ofData (Data.ofJson j) = .ok s.collapse := by
  have asTree : Json.readCollapsed text = (Json.read text).map Json.collapse :=
    Json.readCollapsed_eq (Nat.lt_succ_of_le shallow)
  rw [asTree, Source.read_eq]
  cases Json.read text with
  | error e =>
    refine ⟨⟨?_, ?_⟩, ?_⟩
    · rintro ⟨s, accepted⟩
      cases accepted
    · rintro ⟨j, accepted⟩
      cases accepted
    · intro j accepted
      cases accepted
  | ok j =>
    refine ⟨⟨fun _ => ⟨_, rfl⟩, fun _ => ⟨_, rfl⟩⟩, ?_⟩
    intro collapsed accepted
    cases accepted
    refine ⟨Source.ofJson j, rfl, Source.ofJson_collapse j, ?_⟩
    rw [Source.ofData_ofJson, Source.ofJson_collapse]

/-- Keys are repeated in the outer mapping and in one that goes, and in one that stays. -/
theorem Source.ways_agree_repeatedKeys :
    let text := "\x7b\"a\":\x7b\"k\":1,\"k\":2\x7d,\"b\":[-7,18446744073709551615,0.5]," ++
      "\"a\":\x7b\"k\":3,\"m\":null,\"k\":4\x7d\x7d"
    let tree : Json := .object [
      ("a", .object [("k", .number (.integer 4)), ("m", .null)]),
      ("b", .array [.number (.integer (-7)), .number (.integer 18446744073709551615),
        .number (.double ⟨false, 0x3FE0000000000000, by decide⟩)])]
    Json.nesting text ≤ 127 ∧ Json.readCollapsed text = .ok tree ∧
      ∃ s, Source.read text = .ok s ∧ Source.ofJson tree = s.collapse ∧
        Source.ofData (Data.ofJson tree) = .ok s.collapse := by
  intro text tree
  have scanned : Json.scan text = [.objectOpen,
      .scalar (.string "a"), .colon, .objectOpen,
        .scalar (.string "k"), .colon, .scalar (.number (.integer 1)), .comma,
        .scalar (.string "k"), .colon, .scalar (.number (.integer 2)), .objectClose, .comma,
      .scalar (.string "b"), .colon, .listOpen,
        .scalar (.number (.integer (-7))), .comma,
        .scalar (.number (.integer 18446744073709551615)), .comma,
        .scalar (.number (.double ⟨false, 0x3FE0000000000000, by decide⟩)), .listClose, .comma,
      .scalar (.string "a"), .colon, .objectOpen,
        .scalar (.string "k"), .colon, .scalar (.number (.integer 3)), .comma,
        .scalar (.string "m"), .colon, .scalar .null, .comma,
        .scalar (.string "k"), .colon, .scalar (.number (.integer 4)), .objectClose,
      .objectClose] := by decide +kernel
  have shallow : Json.nesting text ≤ 127 := by decide +kernel
  have accepted : Json.readCollapsed text = .ok tree := by
    rw [Json.readCollapsed, Json.readWith, scanned]
    rfl
  exact ⟨shallow, accepted, (Source.ways_agree text shallow).2 tree accepted⟩

end JsonMarkup
