import JsonMarkup.Json.Reader

/-!
# What is built does not change how it is read

A reader looks at tokens only. Which builder it has makes no difference to what it accepts, and a
limit on nesting makes none where arrays and objects do not lie that deep.

**Theorems.** `readWith_map`: a builder that makes the images of what another one makes reads the
image of what the other one reads. `readWith_limit`: below its limit, a reader with a limit reads
what one without reads, failures included.
-/

namespace JsonMarkup.Json

variable {α β : Type} {a : Builder α} {b : Builder β} {h : α → β} {limit : Option Nat}

/-! ## Images of builders -/

/-- What `b` makes of images is the image of what `a` makes. -/
structure Builder.Maps (h : α → β) (a : Builder α) (b : Builder β) : Prop where
  scalar : ∀ s, h (a.scalar s) = b.scalar s
  list : ∀ items, h (a.list items) = b.list (items.map h)
  object : ∀ members, h (a.object members) = b.object (members.map (Prod.map id h))

def Around.map (h : α → β) : Around α → Around β
  | .list items => .list (items.map h)
  | .object members name => .object (members.map (Prod.map id h)) name

def Position.map (h : α → β) : Position α → Position β
  | .value stack => .value (stack.map (Around.map h))
  | .firstItem stack => .firstItem (stack.map (Around.map h))
  | .afterItem items stack => .afterItem (items.map h) (stack.map (Around.map h))
  | .nextItem items stack => .nextItem (items.map h) (stack.map (Around.map h))
  | .firstName stack => .firstName (stack.map (Around.map h))
  | .afterName members name stack =>
    .afterName (members.map (Prod.map id h)) name (stack.map (Around.map h))
  | .afterMember members stack =>
    .afterMember (members.map (Prod.map id h)) (stack.map (Around.map h))
  | .nextName members stack => .nextName (members.map (Prod.map id h)) (stack.map (Around.map h))
  | .done v => .done (h v)

namespace Position

theorem finish_map (h : α → β) (v : α) (stack : List (Around α)) :
    finish (h v) (stack.map (Around.map h)) = (finish v stack).map h := by
  cases stack with
  | nil => rfl
  | cons around outer => cases around <;> rfl

theorem mayOpen_map (limit : Option Nat) (h : α → β) (stack : List (Around α)) :
    mayOpen limit (stack.map (Around.map h)) = mayOpen limit stack := by
  cases limit <;> simp [mayOpen]

theorem start_map (maps : a.Maps h b) (stack : List (Around α)) (t : Token) :
    start b limit (stack.map (Around.map h)) t = (start a limit stack t).map (Position.map h) := by
  cases t with
  | scalar s => rw [start, ← maps.scalar, finish_map]; rfl
  | listOpen | objectOpen =>
    rw [start, start, mayOpen_map]
    cases mayOpen limit stack <;> rfl
  | _ => rfl

theorem takeName_map (h : α → β) (members : List (String × α)) (stack : List (Around α))
    (t : Token) : takeName (members.map (Prod.map id h)) (stack.map (Around.map h)) t =
      (takeName members stack t).map (Position.map h) := by
  cases t with
  | scalar s => cases s <;> rfl
  | fault e isString => cases isString <;> rfl
  | _ => rfl

/-! Where an array or object may be closed, or may not be, any other token starts a value or a
name. -/

theorem advance_firstItem (b : Builder α) (limit : Option Nat) (stack : List (Around α)) {t : Token}
    (opens : t ≠ .listClose) :
    (firstItem stack).advance b limit t = start b limit (.list [] :: stack) t := by
  cases t with
  | listClose => exact absurd rfl opens
  | _ => rfl

theorem advance_nextItem (b : Builder α) (limit : Option Nat) (items : List α)
    (stack : List (Around α)) {t : Token} (opens : t ≠ .listClose) :
    (nextItem items stack).advance b limit t = start b limit (.list items :: stack) t := by
  cases t with
  | listClose => exact absurd rfl opens
  | _ => rfl

theorem advance_firstName (b : Builder α) (limit : Option Nat) (stack : List (Around α)) {t : Token}
    (opens : t ≠ .objectClose) :
    (firstName stack).advance b limit t = takeName [] stack t := by
  cases t with
  | objectClose => exact absurd rfl opens
  | _ => rfl

theorem advance_nextName (b : Builder α) (limit : Option Nat) (members : List (String × α))
    (stack : List (Around α)) {t : Token} (opens : t ≠ .objectClose) :
    (nextName members stack).advance b limit t = takeName members stack t := by
  cases t with
  | objectClose => exact absurd rfl opens
  | _ => rfl

/-- A token does to the image of a position what it does to the position. -/
theorem advance_map (maps : a.Maps h b) (p : Position α) (t : Token) :
    (p.map h).advance b limit t = (p.advance a limit t).map (Position.map h) := by
  have closedList : ∀ (items : List α) (stack : List (Around α)),
      finish (b.list (items.map h).reverse) (stack.map (Around.map h)) =
        (finish (a.list items.reverse) stack).map h := by
    intro items stack
    rw [← List.map_reverse, ← maps.list, finish_map]
  have closedObject : ∀ (members : List (String × α)) (stack : List (Around α)),
      finish (b.object (members.map (Prod.map id h)).reverse) (stack.map (Around.map h)) =
        (finish (a.object members.reverse) stack).map h := by
    intro members stack
    rw [← List.map_reverse, ← maps.object, finish_map]
  cases p with
  | value stack => exact start_map maps stack t
  | firstItem stack =>
    by_cases closes : t = .listClose
    · subst closes
      exact congrArg Except.ok (closedList [] stack)
    · rw [Position.map, advance_firstItem _ _ _ closes, advance_firstItem _ _ _ closes]
      exact start_map maps (.list [] :: stack) t
  | afterItem items stack =>
    cases t with
    | listClose => exact congrArg Except.ok (closedList items stack)
    | _ => rfl
  | nextItem items stack =>
    by_cases closes : t = .listClose
    · subst closes
      rfl
    · rw [Position.map, advance_nextItem _ _ _ _ closes, advance_nextItem _ _ _ _ closes]
      exact start_map maps (.list items :: stack) t
  | firstName stack =>
    by_cases closes : t = .objectClose
    · subst closes
      exact congrArg Except.ok (closedObject [] stack)
    · rw [Position.map, advance_firstName _ _ _ closes, advance_firstName _ _ _ closes]
      exact takeName_map h [] stack t
  | afterName members name stack => cases t <;> rfl
  | afterMember members stack =>
    cases t with
    | objectClose => exact congrArg Except.ok (closedObject members stack)
    | _ => rfl
  | nextName members stack =>
    by_cases closes : t = .objectClose
    · subst closes
      rfl
    · rw [Position.map, advance_nextName _ _ _ _ closes, advance_nextName _ _ _ _ closes]
      exact takeName_map h members stack t
  | done v => rfl

end Position

theorem run_map (maps : a.Maps h b) (p : Position α) (ts : List Token) :
    run b limit (p.map h) ts = (run a limit p ts).map (Position.map h) := by
  induction ts generalizing p with
  | nil => rfl
  | cons t rest ih =>
    rw [run, run, Position.advance_map maps]
    cases p.advance a limit t with
    | error e => rfl
    | ok q => exact ih q

/-- **Builders do not matter.** Texts are accepted by one as by the other, and what is built is the
image. -/
theorem readWith_map (maps : a.Maps h b) (limit : Option Nat) (text : String) :
    readWith b limit text = (readWith a limit text).map h := by
  have start : (Position.value [] : Position β) = (Position.value [] : Position α).map h := rfl
  rw [readWith, readWith, start, run_map maps]
  cases run a limit (.value []) (scan text) with
  | error e => rfl
  | ok p => cases p <;> rfl

/-! ## Nesting -/

/-- How many arrays and objects are open after a token, if so many were before it. -/
def Token.openAfter (depth : Nat) : Token → Nat
  | .listOpen | .objectOpen => depth + 1
  | .listClose | .objectClose => depth - 1
  | _ => depth

/-- The largest number of arrays and objects that are open at once, if so many are at first. -/
def nestingFrom (depth : Nat) : List Token → Nat
  | [] => depth
  | t :: rest => max depth (nestingFrom (t.openAfter depth) rest)

/-- How many arrays and objects lie within each other in a text. -/
def nesting (text : String) : Nat := nestingFrom 0 (scan text)

theorem le_nestingFrom (depth : Nat) (ts : List Token) : depth ≤ nestingFrom depth ts := by
  cases ts with
  | nil => exact Nat.le_refl _
  | cons t rest => exact Nat.le_max_left ..

/-- How many arrays and objects are open where a reader stands. -/
def Position.level : Position α → Nat
  | .value stack => stack.length
  | .firstItem stack | .afterItem _ stack | .nextItem _ stack | .firstName stack
  | .afterName _ _ stack | .afterMember _ stack | .nextName _ stack => stack.length + 1
  | .done _ => 0

namespace Position

theorem level_finish (v : α) (stack : List (Around α)) : (finish v stack).level = stack.length := by
  cases stack with
  | nil => rfl
  | cons around outer => cases around <;> rfl

theorem level_start {stack : List (Around α)} {t : Token} {q : Position α}
    (hq : start a limit stack t = .ok q) : q.level = t.openAfter stack.length := by
  cases t with
  | scalar s =>
    cases hq
    exact level_finish _ stack
  | listOpen | objectOpen =>
    rw [start] at hq
    split at hq <;> cases hq
    rfl
  | _ => cases hq

theorem level_takeName {members : List (String × α)} {stack : List (Around α)} {t : Token}
    {q : Position α} (hq : takeName members stack t = .ok q) :
    q.level = t.openAfter (stack.length + 1) := by
  cases t with
  | scalar s =>
    cases s <;> cases hq
    rfl
  | fault e isString => cases isString <;> cases hq
  | _ => cases hq

/-- A token opens and closes for the reader what it opens and closes in the text. -/
theorem level_advance {p q : Position α} {t : Token} (hq : p.advance a limit t = .ok q) :
    q.level = t.openAfter p.level := by
  cases p with
  | value stack => exact level_start hq
  | firstItem stack =>
    by_cases closes : t = .listClose
    · subst closes
      cases hq
      exact level_finish _ stack
    · rw [advance_firstItem _ _ _ closes] at hq
      exact level_start hq
  | afterItem items stack =>
    cases t <;> cases hq
    · exact level_finish _ stack
    · rfl
  | nextItem items stack =>
    by_cases closes : t = .listClose
    · subst closes
      cases hq
    · rw [advance_nextItem _ _ _ _ closes] at hq
      exact level_start hq
  | firstName stack =>
    by_cases closes : t = .objectClose
    · subst closes
      cases hq
      exact level_finish _ stack
    · rw [advance_firstName _ _ _ closes] at hq
      exact level_takeName hq
  | afterName members name stack =>
    cases t <;> cases hq
    rfl
  | afterMember members stack =>
    cases t <;> cases hq
    · exact level_finish _ stack
    · rfl
  | nextName members stack =>
    by_cases closes : t = .objectClose
    · subst closes
      cases hq
    · rw [advance_nextName _ _ _ _ closes] at hq
      exact level_takeName hq
  | done v => cases hq

theorem start_limit {most : Nat} {stack : List (Around α)} {t : Token}
    (within : t.openAfter stack.length < most) :
    start a (some most) stack t = start a none stack t := by
  have may : ∀ limit : Option Nat, (limit = none ∨ limit = some most) →
      stack.length + 1 < most → mayOpen limit stack = true := by
    rintro limit (rfl | rfl) h
    · rfl
    · exact decide_eq_true h
  cases t with
  | listOpen | objectOpen => rw [start, start, may _ (.inl rfl) within, may _ (.inr rfl) within]
  | _ => rfl

/-- A limit makes no difference to a token after which less is open. -/
theorem advance_limit {most : Nat} {p : Position α} {t : Token}
    (within : t.openAfter p.level < most) : p.advance a (some most) t = p.advance a none t := by
  cases p with
  | value stack => exact start_limit within
  | firstItem stack =>
    by_cases closes : t = .listClose
    · subst closes
      rfl
    · rw [advance_firstItem _ _ _ closes, advance_firstItem _ _ _ closes]
      exact start_limit within
  | nextItem items stack =>
    by_cases closes : t = .listClose
    · subst closes
      rfl
    · rw [advance_nextItem _ _ _ _ closes, advance_nextItem _ _ _ _ closes]
      exact start_limit within
  | _ => cases t <;> rfl

end Position

theorem run_limit {most : Nat} {p : Position α} {ts : List Token}
    (within : nestingFrom p.level ts < most) : run a (some most) p ts = run a none p ts := by
  induction ts generalizing p with
  | nil => rfl
  | cons t rest ih =>
    rw [nestingFrom] at within
    have later := Nat.lt_of_le_of_lt (Nat.le_max_right ..) within
    have here := Nat.lt_of_le_of_lt (le_nestingFrom _ _) later
    rw [run, run, Position.advance_limit here]
    cases moved : p.advance a none t with
    | error e => rfl
    | ok q =>
      rw [← Position.level_advance moved] at later
      exact ih later

/-- **A limit that is not reached does not matter.** -/
theorem readWith_limit {most : Nat} {text : String} (within : nesting text < most) :
    readWith a (some most) text = readWith a none text := by
  have same : run a (some most) (.value []) (scan text) = run a none (.value []) (scan text) :=
    run_limit within
  rw [readWith, readWith, same]

end JsonMarkup.Json
