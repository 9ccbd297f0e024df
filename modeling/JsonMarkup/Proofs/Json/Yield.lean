import JsonMarkup.Proofs.Json.Written

/-!
# The tokens of an accepted text

What a reader has built lies on its stack, and from there the tokens that it took can be written
down again (`Taken`). So a text that is read as a tree has the tokens of the tree and no others.

**Theorem** (`scan_of_read`). The tokens of an accepted text are those of its tree.
-/

namespace JsonMarkup.Json

/-! ## What was taken -/

/-- The tokens of a member of an object. -/
def memberWord (m : String × Json) : List Token := .scalar (.string m.1) :: .colon :: m.2.tokens

/-- Finished parts, last one first, each with the comma behind it. -/
def begun (parts : List (List Token)) : List Token := parts.reverse.flatMap (· ++ [.comma])

/-- The tokens of what is still open, up to the value that is being read. -/
def Around.tokens : Around Json → List Token
  | .list items => .listOpen :: begun (items.map Json.tokens)
  | .object members name =>
    .objectOpen :: (begun (members.map memberWord) ++ [.scalar (.string name), .colon])

def stackTokens : List (Around Json) → List Token
  | [] => []
  | around :: stack => stackTokens stack ++ around.tokens

/-- A reader that stands here has taken these tokens. -/
inductive Taken : Position Json → List Token → Prop
  | value {stack : List (Around Json)} : Taken (.value stack) (stackTokens stack)
  | firstItem {stack : List (Around Json)} :
    Taken (.firstItem stack) (stackTokens (.list [] :: stack))
  | afterItem {j : Json} {items : List Json} {stack : List (Around Json)} :
    Taken (.afterItem (j :: items) stack) (stackTokens (.list items :: stack) ++ j.tokens)
  | nextItem {items : List Json} {stack : List (Around Json)} :
    Taken (.nextItem items stack) (stackTokens (.list items :: stack))
  | firstName {stack : List (Around Json)} :
    Taken (.firstName stack) (stackTokens stack ++ [.objectOpen])
  | afterName {members : List (String × Json)} {name : String} {stack : List (Around Json)} :
    Taken (.afterName members name stack)
      (stackTokens stack ++
        .objectOpen :: (begun (members.map memberWord) ++ [.scalar (.string name)]))
  | afterMember {name : String} {j : Json} {members : List (String × Json)}
    {stack : List (Around Json)} :
    Taken (.afterMember ((name, j) :: members) stack)
      (stackTokens (.object members name :: stack) ++ j.tokens)
  | nextName {members : List (String × Json)} {stack : List (Around Json)} :
    Taken (.nextName members stack)
      (stackTokens stack ++ .objectOpen :: begun (members.map memberWord))
  | done {j : Json} : Taken (.done j) j.tokens

/-! ## Lists with commas -/

theorem begun_cons (part : List Token) (parts : List (List Token)) :
    begun (part :: parts) = begun parts ++ (part ++ [.comma]) := by
  rw [begun, List.reverse_cons, List.flatMap_append, List.flatMap_singleton, ← begun]

theorem intercalate_concat (parts : List (List Token)) (part : List Token) :
    [Token.comma].intercalate (parts ++ [part]) = parts.flatMap (· ++ [.comma]) ++ part := by
  induction parts with
  | nil => rw [List.nil_append, List.intercalate_singleton, List.flatMap_nil, List.nil_append]
  | cons first parts ih =>
    rw [List.cons_append, List.intercalate_cons_of_ne_nil (by simp), ih, List.flatMap_cons,
      List.append_assoc _ _ part]

theorem intercalate_reverse (part : List Token) (parts : List (List Token)) :
    [Token.comma].intercalate (part :: parts).reverse = begun parts ++ part := by
  rw [List.reverse_cons, intercalate_concat, ← begun]

theorem itemTokens_eq_map (items : List Json) : itemTokens items = items.map Json.tokens := by
  induction items with
  | nil => rfl
  | cons j rest ih => rw [itemTokens, ih, List.map_cons]

theorem memberTokens_eq_map (members : List (String × Json)) :
    memberTokens members = members.map memberWord := by
  induction members with
  | nil => rfl
  | cons m rest ih => rw [memberTokens, ih, List.map_cons, memberWord]

/-- The tokens of an array whose items were finished one after the other. -/
theorem tokens_array (j : Json) (items : List Json) :
    (Json.array (j :: items).reverse).tokens =
      .listOpen :: (begun (items.map Json.tokens) ++ j.tokens ++ [.listClose]) := by
  rw [tokens, itemTokens_eq_map, List.map_reverse, List.map_cons, intercalate_reverse]

theorem tokens_object (m : String × Json) (members : List (String × Json)) :
    (Json.object (m :: members).reverse).tokens =
      .objectOpen :: (begun (members.map memberWord) ++ memberWord m ++ [.objectClose]) := by
  rw [tokens, memberTokens_eq_map, List.map_reverse, List.map_cons, intercalate_reverse]

/-! ## Steps and runs -/

variable {p q : Position Json} {t : Token} {ts us : List Token} {stack : List (Around Json)}

theorem taken_finish (j : Json) (stack : List (Around Json)) :
    Taken (Position.finish j stack) (stackTokens stack ++ j.tokens) := by
  cases stack with
  | nil => exact .done
  | cons around stack =>
    cases around with
    | list items => exact .afterItem
    | object members name => exact .afterMember

theorem taken_start (moved : Position.start builder none stack t = .ok q) :
    Taken q (stackTokens stack ++ [t]) := by
  cases t with
  | scalar s =>
    cases moved
    have scalar : [Token.scalar s] = (builder.scalar s).tokens := by cases s <;> rfl
    rw [scalar]
    exact taken_finish _ _
  | listOpen =>
    cases moved
    exact .firstItem
  | objectOpen =>
    cases moved
    exact .firstName
  | _ => cases moved

theorem taken_takeName {members : List (String × Json)}
    (moved : Position.takeName members stack t = .ok q) :
    Taken q (stackTokens stack ++ .objectOpen :: begun (members.map memberWord) ++ [t]) := by
  cases t with
  | scalar s =>
    cases s with
    | string name =>
      cases moved
      rw [List.append_assoc, List.cons_append]
      exact .afterName
    | _ => cases moved
  | fault e isString => cases isString <;> cases moved
  | _ => cases moved

/-- Each step takes one token more. -/
theorem taken_advance (taken : Taken p ts) (moved : p.advance builder none t = .ok q) :
    Taken q (ts ++ [t]) := by
  cases taken with
  | value => exact taken_start moved
  | @firstItem stack =>
    by_cases closes : t = .listClose
    · subst closes
      cases moved
      have whole := taken_finish (.array []) stack
      simpa [stackTokens, Around.tokens, begun, tokens, itemTokens, builder] using whole
    · rw [Position.advance_firstItem _ _ _ closes] at moved
      exact taken_start moved
  | @afterItem j items stack =>
    cases t
    case listClose =>
      cases moved
      have whole := taken_finish (.array (j :: items).reverse) stack
      rw [tokens_array] at whole
      simpa [stackTokens, Around.tokens, builder] using whole
    case comma =>
      cases moved
      have next : Taken (.nextItem (j :: items) stack) _ := .nextItem
      simpa [stackTokens, Around.tokens, begun_cons] using next
    all_goals cases moved
  | nextItem =>
    by_cases closes : t = .listClose
    · subst closes
      cases moved
    · rw [Position.advance_nextItem _ _ _ _ closes] at moved
      exact taken_start moved
  | @firstName stack =>
    by_cases closes : t = .objectClose
    · subst closes
      cases moved
      have whole := taken_finish (.object []) stack
      simpa [tokens, memberTokens, builder] using whole
    · rw [Position.advance_firstName _ _ _ closes] at moved
      exact taken_takeName moved
  | @afterName members name stack =>
    cases t
    case colon =>
      cases moved
      have value : Taken (.value (.object members name :: stack)) _ := .value
      simpa [stackTokens, Around.tokens] using value
    all_goals cases moved
  | @afterMember name j members stack =>
    cases t
    case objectClose =>
      cases moved
      have whole := taken_finish (.object ((name, j) :: members).reverse) stack
      rw [tokens_object] at whole
      simpa [stackTokens, Around.tokens, memberWord, builder] using whole
    case comma =>
      cases moved
      have next : Taken (.nextName ((name, j) :: members) stack) _ := .nextName
      simpa [stackTokens, Around.tokens, begun_cons, memberWord] using next
    all_goals cases moved
  | nextName =>
    by_cases closes : t = .objectClose
    · subst closes
      cases moved
    · rw [Position.advance_nextName _ _ _ _ closes] at moved
      exact taken_takeName moved
  | done => cases moved

theorem taken_run (taken : Taken p ts) (ran : run builder none p us = .ok q) :
    Taken q (ts ++ us) := by
  induction us generalizing p ts with
  | nil =>
    cases ran
    rw [List.append_nil]
    exact taken
  | cons t rest ih =>
    rw [run] at ran
    cases moved : p.advance builder none t with
    | error e =>
      rw [moved] at ran
      cases ran
    | ok p' =>
      rw [moved] at ran
      rw [List.append_cons]
      exact ih (taken_advance taken moved) ran

theorem eq_tokens_of_done {j : Json} (taken : Taken (.done j) ts) : ts = j.tokens := by
  cases taken
  rfl

/-- **The tokens of an accepted text are those of its tree.** -/
theorem scan_of_read {text : String} {j : Json} (accepted : read text = .ok j) :
    scan text = j.tokens := by
  have start : Taken (.value []) [] := .value
  exact eq_tokens_of_done (taken_run start (readWith_eq_ok.mp accepted))

end JsonMarkup.Json
