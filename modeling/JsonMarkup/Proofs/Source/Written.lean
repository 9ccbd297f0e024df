import JsonMarkup.Proofs.Json.Writing
import JsonMarkup.Proofs.Source.Collapse

/-!
# Reading undoes writing

A document in which nothing is pending is a tree, and any text that is written for the tree is read
as the document: with any blanks, any way of escaping, entries under repeated keys, at any depth.
Unless the document is a number, its text shows where it ends. With more behind it, it is rejected,
and so it is where something is missing at its end.

**Main result.** `reading_undoes_writing`.
-/

namespace JsonMarkup

/-! ## Documents that are trees -/

mutual

/-- The tree of a document, if nothing in it is pending. -/
def Source.toJson? : Source → Option Json
  | .ready v => v.toJson?
  | .pending _ => none

def Value.toJson? : Value → Option Json
  | .null => some .null
  | .boolean b => some (.boolean b)
  | .number n => some (.number n)
  | .text s => some (.string s)
  | .mapping entries => (entriesToJson? entries).map .object
  | .list items => (itemsToJson? items).map .array

/-- The trees of the entries of a mapping, repeated keys included. -/
def entriesToJson? : List (String × Source) → Option (List (String × Json))
  | [] => some []
  | (key, s) :: rest =>
    match s.toJson?, entriesToJson? rest with
    | some j, some members => some ((key, j) :: members)
    | _, _ => none

/-- The trees of the entries of a list. -/
def itemsToJson? : List Source → Option (List Json)
  | [] => some []
  | s :: rest =>
    match s.toJson?, itemsToJson? rest with
    | some j, some items => some (j :: items)
    | _, _ => none

end

namespace Source

mutual

/-- A document is that of its tree. -/
theorem ofJson_of_toJson? {s : Source} {j : Json} (tree : s.toJson? = some j) : ofJson j = s := by
  cases s with
  | pending p => cases tree
  | ready v =>
    cases v with
    | mapping entries =>
      rw [toJson?, Value.toJson?, Option.map_eq_some_iff] at tree
      obtain ⟨members, found, rfl⟩ := tree
      rw [ofJson, ofJsonMembers_of_entriesToJson? found]
      rfl
    | list items =>
      rw [toJson?, Value.toJson?, Option.map_eq_some_iff] at tree
      obtain ⟨trees, found, rfl⟩ := tree
      rw [ofJson, ofJsonItems_of_itemsToJson? found]
      rfl
    | _ =>
      cases tree
      rfl

theorem ofJsonMembers_of_entriesToJson? {entries : List (String × Source)}
    {members : List (String × Json)} (found : entriesToJson? entries = some members) :
    ofJsonMembers members = entries := by
  cases entries with
  | nil =>
    cases found
    rfl
  | cons e rest =>
    rw [entriesToJson?] at found
    split at found
    · rename_i j others first more
      cases found
      rw [ofJsonMembers, ofJson_of_toJson? first, ofJsonMembers_of_entriesToJson? more]
    · cases found

theorem ofJsonItems_of_itemsToJson? {items : List Source} {trees : List Json}
    (found : itemsToJson? items = some trees) : ofJsonItems trees = items := by
  cases items with
  | nil =>
    cases found
    rfl
  | cons s rest =>
    rw [itemsToJson?] at found
    split at found
    · rename_i j others first more
      cases found
      rw [ofJsonItems, ofJson_of_toJson? first, ofJsonItems_of_itemsToJson? more]
    · cases found

end

mutual

theorem toJson?_ofJson (j : Json) : (ofJson j).toJson? = some j := by
  cases j with
  | array items =>
    rw [ofJson, list, toJson?, Value.toJson?, itemsToJson?_ofJsonItems items]
    rfl
  | object members =>
    rw [ofJson, mapping, toJson?, Value.toJson?, entriesToJson?_ofJsonMembers members]
    rfl
  | _ => rfl

theorem itemsToJson?_ofJsonItems (items : List Json) :
    itemsToJson? (ofJsonItems items) = some items := by
  cases items with
  | nil => rfl
  | cons j rest =>
    rw [ofJsonItems, itemsToJson?, toJson?_ofJson j, itemsToJson?_ofJsonItems rest]

theorem entriesToJson?_ofJsonMembers (members : List (String × Json)) :
    entriesToJson? (ofJsonMembers members) = some members := by
  cases members with
  | nil => rfl
  | cons e rest =>
    rw [ofJsonMembers, entriesToJson?, toJson?_ofJson e.2, entriesToJson?_ofJsonMembers rest]

end

/-! ## Reading -/

theorem read_eq_error {text : String} {e : Json.Error} (rejected : Json.read text = .error e) :
    read text = .error e := by
  rw [read_eq, rejected]
  rfl

/-- **Reading undoes writing.** Any text that is written for the tree of a document is read as the
document. Unless the document is a number, the text followed by anything but blanks is rejected,
and so is the text when more than blanks is missing at its end. -/
theorem reading_undoes_writing {s : Source} {j : Json} {text : String} (tree : s.toJson? = some j)
    (written : Json.Written j.tokens text.toList) :
    read text = .ok s ∧
      ((∀ n, s ≠ .ready (.number n)) →
        (∀ more : String, ¬Json.Blank more.toList → ∃ e, read (text ++ more) = .error e) ∧
          ∀ front back : String, text = front ++ back → ¬Json.Blank back.toList →
            ∃ e, read front = .error e) := by
  have accepted : Json.read text = .ok j := Json.read_written written
  constructor
  · rw [read_eq, accepted]
    exact congrArg Except.ok (ofJson_of_toJson? tree)
  intro noNumber
  have noNumber : ∀ n, j ≠ .number n := by
    rintro n rfl
    exact noNumber n (ofJson_of_toJson? tree).symm
  constructor
  · intro more some
    obtain ⟨e, rejected⟩ := Json.read_more accepted noNumber some
    exact ⟨e, read_eq_error rejected⟩
  · intro front back parts some
    rw [parts] at accepted
    obtain ⟨e, rejected⟩ := Json.read_broken accepted noNumber some
    exact ⟨e, read_eq_error rejected⟩

/-- An empty key is repeated, a key and a text are escaped in several ways, and there are blanks. -/
theorem reading_undoes_writing_repeatedKeys :
    let s := mapping [("", list [.ready (.number (.integer (-20))), .ready .null]),
      ("é", .ready (.boolean true)), ("", text "a😀/")]
    let tree : Json := .object [("", .array [.number (.integer (-20)), .null]),
      ("é", .boolean true), ("", .string "a😀/")]
    let written := " \x7b\"\": [-20 ,\tnull],\"\\u00E9\":true,\n\"\":\"a\\ud83d\\ude00\\/\"\x7d"
    s.toJson? = some tree ∧ Json.Written tree.tokens written.toList ∧ read written = .ok s ∧
      (∃ e, read (written ++ " ]") = .error e) ∧ ∃ e, read " \x7b\"\": [-20" = .error e := by
  intro s tree written
  have isTree : s.toJson? = some tree := rfl
  have spelled : Json.Written tree.tokens written.toList := by
    have hex : Json.HexQuad 'é'.toNat "00E9".toList :=
      .digits (k := 0) (l := 0) (m := 14) (n := 9) (.inl rfl) (.inl rfl) (.inr rfl) (.inl rfl)
    have high : Json.HexQuad 0xD83D "d83d".toList :=
      .digits (k := 13) (l := 8) (m := 3) (n := 13) (.inl rfl) (.inl rfl) (.inl rfl) (.inl rfl)
    have low : Json.HexQuad 0xDE00 "de00".toList :=
      .digits (k := 13) (l := 14) (m := 0) (n := 0) (.inl rfl) (.inl rfl) (.inl rfl) (.inl rfl)
    have empty : Json.StringWord "".toList "".toList := .nil
    have accented : Json.StringWord "é".toList "\\u00E9".toList := .cons (.code hex) .nil
    have smiling : Json.StringWord "a😀/".toList "a\\ud83d\\ude00\\/".toList :=
      .cons (.itself (by decide) (by decide) (by decide))
        (.cons (.pair (by decide) (by decide) (by decide) high low)
          (.cons (.short (by decide)) .nil))
    have negative : Json.Word (.scalar (.number (.integer (-20)))) "-20".toList :=
      .integer (by decide) (by decide)
    have unspaced : Json.Blank [] := by decide
    have spaced : Json.Blank " ".toList := by decide
    have tabbed : Json.Blank "\t".toList := by decide
    have broken : Json.Blank "\n".toList := by decide
    have words := Json.Written.word spaced .objectOpen <| .word unspaced (.string empty) <|
      .word unspaced .colon <| .word spaced .listOpen <| .word unspaced negative <|
      .word spaced .comma <| .word tabbed .null <| .word unspaced .listClose <|
      .word unspaced .comma <| .word unspaced (.string accented) <| .word unspaced .colon <|
      .word unspaced .isTrue <| .word unspaced .comma <| .word broken (.string empty) <|
      .word unspaced .colon <| .word unspaced (.string smiling) <| .word unspaced .objectClose <|
      .blanks unspaced
    obtain ⟨chars, same, words⟩ :
        ∃ chars, chars = written.toList ∧ Json.Written tree.tokens chars :=
      ⟨_, by decide, words⟩
    exact same ▸ words
  have noNumber : ∀ n, s ≠ .ready (.number n) := by
    intro n same
    cases congrArg toJson? same
  obtain ⟨accepted, rejected⟩ := reading_undoes_writing isTree spelled
  obtain ⟨more, broken⟩ := rejected noNumber
  refine ⟨isTree, spelled, accepted, more " ]" (by decide), ?_⟩
  exact broken _ " ,\tnull],\"\\u00E9\":true,\n\"\":\"a\\ud83d\\ude00\\/\"\x7d" (by decide)
    (by decide)

end Source

end JsonMarkup
