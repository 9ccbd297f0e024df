import JsonMarkup.Cli.Run
import JsonMarkup.Proofs.Fields
import JsonMarkup.Proofs.Json.Writing

/-!
# Output nodes read back from JSON

The JSON form of an element leaves out what there is nothing of: attributes, style, children, the
raw text of a style, its properties. Raw text that is empty is not left out, nor is the empty text
of a text node, and what kind of node an object stands for is told by one of its members.

`Node.ofJson?` takes a member that is left out to be the empty part. It is a decoder of trees;
`Node.readAll?` is one of texts, by way of the JSON reader.

**Theorem** (`json_lossless`). Nodes are read back from either layout of their JSON text. So nodes
with the same JSON text are the same, down to the order of attributes and properties.
-/

namespace JsonMarkup

/-! ## Reading members -/

def Json.text? : Json → Option String
  | .string s => some s
  | _ => none

/-- Named texts, if all the values are texts. -/
def textsOf? : List (String × Json) → Option (List (String × String))
  | [] => some []
  | (name, j) :: rest =>
    match j.text?, textsOf? rest with
    | some s, some texts => some ((name, s) :: texts)
    | _, _ => none

/-- Read a member, which stands for this if it is left out. -/
def memberOr? {α : Type} (absent : α) (read : Json → Option α) (name : String)
    (members : List (String × Json)) : Option α :=
  match findField? name members with
  | some j => read j
  | none => some absent

def Fields.ofJson? : Json → Option (Fields String)
  | .object members => (textsOf? members).map Fields.ofList
  | _ => none

def Style.ofJson? : Json → Option Style
  | .object members => do
    let text ← memberOr? none (fun j => j.text?.map some) "text" members
    let properties ← memberOr? Fields.empty Fields.ofJson? "properties" members
    return ⟨text, properties⟩
  | _ => none

namespace Node

/-- The node that an object stands for, with these children if it is an element. -/
def ofMembers? (members : List (String × Json)) (children : List Node) : Option Node := do
  let text (name : String) := (findField? name members).bind Json.text?
  let kind ← text "type"
  if kind = "text" then
    return .text (← text "text")
  else if kind = "error" then
    return .error (← text "message")
  else if kind = "element" then
    let attributes ← memberOr? Fields.empty Fields.ofJson? "attributes" members
    let style ← memberOr? Style.empty Style.ofJson? "style" members
    return .element (← text "tag") attributes style children
  else none

mutual

/-- The node that a tree stands for, if it stands for one. -/
def ofJson? : Json → Option Node
  | .object members => (childrenIn? members).bind (ofMembers? members)
  | _ => none

/-- The nodes in the member that holds the children of an element. -/
def childrenIn? : List (String × Json) → Option (List Node)
  | [] => some []
  | (name, j) :: rest => if name = "children" then nodesOf? j else childrenIn? rest

/-- The nodes that a tree lists. -/
def nodesOf? : Json → Option (List Node)
  | .array items => ofJsonAll? items
  | _ => none

def ofJsonAll? : List Json → Option (List Node)
  | [] => some []
  | j :: rest =>
    match ofJson? j, ofJsonAll? rest with
    | some n, some nodes => some (n :: nodes)
    | _, _ => none

end

/-- The nodes that a JSON text lists. -/
def readAll? (text : String) : Option (List Node) := (Json.read text).toOption.bind nodesOf?

end Node

/-! ## Members in their places -/

section Members

variable {α : Type} {name other : String} {j : Json} {members : List (String × Json)}

@[simp]
theorem findField?_cons_self (name : String) (j : Json) (members : List (String × Json)) :
    findField? name ((name, j) :: members) = some j := if_pos rfl

theorem findField?_cons_of_ne (h : other ≠ name) :
    findField? name ((other, j) :: members) = findField? name members := if_neg h

/-- A member of another name may be there or not. -/
theorem findField?_memberIf_of_ne (h : other ≠ name) (c : Bool) :
    findField? name (memberIf c other j ++ members) = findField? name members := by
  cases c with
  | true => exact findField?_cons_of_ne h
  | false => rfl

theorem memberOr?_memberIf_of_ne {absent : α} {read : Json → Option α} (h : other ≠ name)
    (c : Bool) : memberOr? absent read name (memberIf c other j ++ members) =
      memberOr? absent read name members := by
  rw [memberOr?, memberOr?, findField?_memberIf_of_ne h]

/-- A member that may be left out is read as what it holds, or as what it stands for. -/
theorem memberOr?_memberIf {absent v : α} {read : Json → Option α} {c : Bool}
    (there : c = true → read j = some v) (leftOut : c = false → absent = v)
    (once : findField? name members = none) :
    memberOr? absent read name (memberIf c name j ++ members) = some v := by
  cases c with
  | true =>
    rw [memberOr?, memberIf, if_pos rfl, List.singleton_append, findField?_cons_self]
    exact there rfl
  | false =>
    rw [memberOr?, memberIf, if_neg Bool.false_ne_true, List.nil_append, once, leftOut rfl]

end Members

/-! ## Reading undoes writing -/

theorem textsOf?_map (texts : List (String × String)) :
    textsOf? (texts.map fun f => (f.1, .string f.2)) = some texts := by
  induction texts with
  | nil => rfl
  | cons f rest ih => rw [List.map_cons, textsOf?, ih]; rfl

theorem Fields.ofJson?_toJson (fs : Fields String) : Fields.ofJson? fs.toJson = some fs := by
  rw [Fields.toJson, Fields.ofJson?, textsOf?_map, Option.map_some, Fields.ofList_toList]

theorem Fields.eq_empty_of_isEmpty {fs : Fields String} (h : (!fs.isEmpty) = false) :
    Fields.empty = fs := by
  refine Fields.ext (List.isEmpty_iff.mp ?_).symm
  simpa [Fields.isEmpty] using h

theorem Style.ofJson?_toJson (style : Style) : Style.ofJson? style.toJson = some style := by
  obtain ⟨text, properties⟩ := style
  have optional : (text.map fun t => ("text", Json.string t)).toList =
      memberIf text.isSome "text" (.string (text.getD "")) := by
    cases text <;> rfl
  have behind : findField? "text"
      (memberIf (!properties.isEmpty) "properties" properties.toJson) = none := by
    rw [← List.append_nil (memberIf ..), findField?_memberIf_of_ne (by decide)]
    rfl
  have textRead : memberOr? none (fun j => j.text?.map some) "text"
      (memberIf text.isSome "text" (.string (text.getD "")) ++
        memberIf (!properties.isEmpty) "properties" properties.toJson) = some text := by
    refine memberOr?_memberIf (fun present => ?_) (fun absent => ?_) behind
    · obtain ⟨content, rfl⟩ := Option.isSome_iff_exists.mp present
      rfl
    · exact (Option.isNone_iff_eq_none.mp (by simpa using absent)).symm
  have propertiesRead : memberOr? Fields.empty Fields.ofJson? "properties"
      (memberIf (!properties.isEmpty) "properties" properties.toJson ++ []) = some properties :=
    memberOr?_memberIf (fun _ => properties.ofJson?_toJson) Fields.eq_empty_of_isEmpty rfl
  rw [List.append_nil, ← memberOr?_memberIf_of_ne (show "text" ≠ "properties" by decide)
    text.isSome] at propertiesRead
  rw [Style.toJson, optional, Style.ofJson?, textRead]
  dsimp only [bind, Option.bind]
  rw [propertiesRead]
  rfl

theorem Style.eq_empty_of_isEmpty {style : Style} (h : (!style.isEmpty) = false) :
    Style.empty = style := by
  obtain ⟨text, properties⟩ := style
  simp only [Style.isEmpty, Bool.not_eq_false', Bool.and_eq_true] at h
  rw [Style.empty, Option.isNone_iff_eq_none.mp h.1, Fields.eq_empty_of_isEmpty (by rw [h.2]; rfl)]

namespace Node

/-- The members of an element are read as its parts. -/
theorem ofMembers?_element (tag : String) (attributes : Fields String) (style : Style)
    (children : List Node) (inner : List Json) :
    ofMembers? (("type", .string "element") :: elementMembers tag attributes style inner) children =
      some (.element tag attributes style children) := by
  have fixed : ("type", .string "element") :: elementMembers tag attributes style inner =
      memberIf true "type" (.string "element") ++ (memberIf true "tag" (.string tag) ++
        (memberIf (!attributes.isEmpty) "attributes" attributes.toJson ++
          (memberIf (!style.isEmpty) "style" style.toJson ++
            memberIf (!inner.isEmpty) "children" (.array inner)))) := by
    rw [elementMembers, List.append_assoc]
    rfl
  have none : ∀ name, "children" ≠ name →
      findField? name (memberIf (!inner.isEmpty) "children" (.array inner)) = none := by
    intro name other
    rw [← List.append_nil (memberIf ..), findField?_memberIf_of_ne other]
    rfl
  have attributesRead : memberOr? Fields.empty Fields.ofJson? "attributes"
      (("type", .string "element") :: elementMembers tag attributes style inner) =
        some attributes := by
    rw [fixed, memberOr?_memberIf_of_ne (by decide), memberOr?_memberIf_of_ne (by decide)]
    refine memberOr?_memberIf (fun _ => attributes.ofJson?_toJson) Fields.eq_empty_of_isEmpty ?_
    rw [findField?_memberIf_of_ne (by decide), none _ (by decide)]
  have styleRead : memberOr? Style.empty Style.ofJson? "style"
      (("type", .string "element") :: elementMembers tag attributes style inner) = some style := by
    rw [fixed, memberOr?_memberIf_of_ne (by decide), memberOr?_memberIf_of_ne (by decide),
      memberOr?_memberIf_of_ne (by decide)]
    exact memberOr?_memberIf (fun _ => style.ofJson?_toJson) Style.eq_empty_of_isEmpty
      (none _ (by decide))
  rw [ofMembers?, attributesRead, styleRead]
  rfl

/-- Other members are passed over in the search for children. -/
theorem childrenIn?_memberIf_of_ne {name : String} {j : Json} {members : List (String × Json)}
    (h : name ≠ "children") (c : Bool) :
    childrenIn? (memberIf c name j ++ members) = childrenIn? members := by
  cases c with
  | true => exact if_neg h
  | false => rfl

theorem childrenIn?_element (tag : String) (attributes : Fields String) (style : Style)
    {children : List Node} {inner : List Json} (read : ofJsonAll? inner = some children) :
    childrenIn? (("type", .string "element") :: elementMembers tag attributes style inner) =
      some children := by
  rw [elementMembers, List.append_assoc, childrenIn?, if_neg (by decide), childrenIn?,
    if_neg (by decide), childrenIn?_memberIf_of_ne (by decide),
    childrenIn?_memberIf_of_ne (by decide)]
  cases inner with
  | nil => exact read
  | cons j rest => exact read

mutual

/-- **A node is read back from its JSON form.** -/
theorem ofJson?_toJson (n : Node) : ofJson? n.toJson = some n := by
  cases n with
  | text content => rfl
  | error message => rfl
  | element tag attributes style children =>
    have read := ofJsonAll?_toJsonAll children
    rw [toJson, ofJson?, childrenIn?_element tag attributes style read]
    exact ofMembers?_element ..

theorem ofJsonAll?_toJsonAll (nodes : List Node) : ofJsonAll? (toJsonAll nodes) = some nodes := by
  cases nodes with
  | nil => rfl
  | cons n rest => rw [toJsonAll, ofJsonAll?, ofJson?_toJson n, ofJsonAll?_toJsonAll rest]

end

end Node

/-! ## Texts -/

open Json

theorem Json.MembersExact.append {members more : List (String × Json)} (h : MembersExact members)
    (h' : MembersExact more) : MembersExact (members ++ more) := by
  induction members with
  | nil => exact h'
  | cons e rest ih => exact ⟨h.1, ih h.2⟩

theorem Json.MembersExact.memberIf {name : String} {j : Json} (h : j.Exact) (c : Bool) :
    MembersExact (memberIf c name j) := by
  cases c with
  | true => exact ⟨h, trivial⟩
  | false => trivial

theorem Fields.exact_toJson (fs : Fields String) : fs.toJson.Exact := by
  have texts : ∀ es : List (String × String),
      MembersExact (es.map fun f => (f.1, .string f.2)) := by
    intro es
    induction es with
    | nil => trivial
    | cons e rest ih => exact ⟨trivial, ih⟩
  exact texts fs.toList

theorem Style.exact_toJson (style : Style) : style.toJson.Exact := by
  refine MembersExact.append ?_ (.memberIf (Fields.exact_toJson _) _)
  cases style.text with
  | none => trivial
  | some text => exact ⟨trivial, trivial⟩

namespace Node

mutual

/-- There are no numbers in the JSON form of a node. -/
theorem exact_toJson (n : Node) : n.toJson.Exact := by
  cases n with
  | text content => exact ⟨trivial, trivial, trivial⟩
  | error message => exact ⟨trivial, trivial, trivial⟩
  | element tag attributes style children =>
    refine ⟨trivial, trivial, ?_⟩
    refine ((MembersExact.memberIf ?_ _).append (.memberIf ?_ _)).append (.memberIf ?_ _)
    · exact attributes.exact_toJson
    · exact style.exact_toJson
    · exact exact_toJsonAll children

theorem exact_toJsonAll (nodes : List Node) : Json.ItemsExact (toJsonAll nodes) := by
  cases nodes with
  | nil => trivial
  | cons n rest => exact ⟨exact_toJson n, exact_toJsonAll rest⟩

end

theorem toJsonAll_eq_map (nodes : List Node) : toJsonAll nodes = nodes.map toJson := by
  induction nodes with
  | nil => rfl
  | cons n rest ih => rw [toJsonAll, ih, List.map_cons]

/-- Nodes are read back from any text that is read as their JSON form. -/
theorem readAll?_of_read {nodes : List Node} {text : String}
    (read : Json.read text = .ok (.array (nodes.map toJson))) : readAll? text = some nodes := by
  rw [readAll?, read, ← toJsonAll_eq_map]
  exact ofJsonAll?_toJsonAll nodes

/-- **The JSON text of nodes is lossless.** In turn, for the indented layout in which a rendering is
written and for the compact one: a decoder recovers the nodes from the text, and so two lists of
nodes have the same text only if they are the same. -/
theorem json_lossless (nodes others : List Node) :
    readAll? (Cli.Format.write nodes .json) = some nodes ∧
    (Cli.Format.write nodes .json = Cli.Format.write others .json ↔ nodes = others) ∧
    readAll? (Json.array (nodes.map toJson)).compact = some nodes ∧
    ((Json.array (nodes.map toJson)).compact = (Json.array (others.map toJson)).compact ↔
      nodes = others) := by
  have exact : ∀ ns : List Node, (Json.array (ns.map toJson)).Exact := by
    intro ns
    rw [← toJsonAll_eq_map]
    exact exact_toJsonAll ns
  have pretty : ∀ ns : List Node, readAll? (Cli.Format.write ns .json) = some ns :=
    fun ns => readAll?_of_read (read_pretty (exact ns))
  have compact : ∀ ns : List Node, readAll? (Json.array (ns.map toJson)).compact = some ns :=
    fun ns => readAll?_of_read (read_compact (exact ns))
  refine ⟨pretty nodes, ⟨fun same => ?_, fun same => by rw [same]⟩, compact nodes,
    ⟨fun same => ?_, fun same => by rw [same]⟩⟩
  · have read := pretty nodes
    rw [same, pretty others] at read
    exact (Option.some.inj read).symm
  · have read := compact nodes
    rw [same, compact others] at read
    exact (Option.some.inj read).symm

end Node

end JsonMarkup
