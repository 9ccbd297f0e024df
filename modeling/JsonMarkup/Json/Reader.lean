import JsonMarkup.Json.Basic
import JsonMarkup.Json.Token

/-!
# Reading JSON text

The reader is a pushdown machine: `Position.advance` takes one token, and arrays and objects that
are still open lie on an explicit stack, so that documents of any depth can be read. What is built
from the parts is left to a `Builder`. A limit on nesting may be given.

**Main statement.** `run_append`: a run can be split at any token.
-/

namespace JsonMarkup.Json

/-- How a value is put together from its parts. -/
structure Builder (α : Type) where
  scalar : Scalar → α
  list : List α → α
  object : List (String × α) → α

/-- An array or object around the value that is being read; finished parts are kept last one
first. -/
inductive Around (α : Type) where
  | list (items : List α)
  /-- An object with its members so far, and the name whose value is being read. -/
  | object (members : List (String × α)) (name : String)

/-- Where a reader stands between two tokens. -/
inductive Position (α : Type) where
  | value (stack : List (Around α))
  | firstItem (stack : List (Around α))
  | afterItem (items : List α) (stack : List (Around α))
  | nextItem (items : List α) (stack : List (Around α))
  | firstName (stack : List (Around α))
  | afterName (members : List (String × α)) (name : String) (stack : List (Around α))
  | afterMember (members : List (String × α)) (stack : List (Around α))
  | nextName (members : List (String × α)) (stack : List (Around α))
  | done (value : α)

namespace Position

variable {α β : Type}

/-- Where the reader stands once a value is finished. -/
def finish (v : α) : List (Around α) → Position α
  | [] => .done v
  | .list items :: stack => .afterItem (v :: items) stack
  | .object members name :: stack => .afterMember ((name, v) :: members) stack

/-- One more array or object may be opened inside the ones around it. -/
def mayOpen (limit : Option Nat) (stack : List (Around α)) : Bool :=
  match limit with
  | none => true
  | some most => stack.length + 1 < most

/-- Take the first token of a value. -/
def start (b : Builder α) (limit : Option Nat) (stack : List (Around α)) :
    Token → Except Error (Position α)
  | .scalar s => .ok (finish (b.scalar s) stack)
  | .listOpen => if mayOpen limit stack then .ok (.firstItem stack) else .error .recursionLimit
  | .objectOpen => if mayOpen limit stack then .ok (.firstName stack) else .error .recursionLimit
  | .fault e _ => .error e
  | _ => .error .expectedValue

/-- Take a token where only a name may stand. -/
def takeName (members : List (String × α)) (stack : List (Around α)) :
    Token → Except Error (Position α)
  | .scalar (.string name) => .ok (.afterName members name stack)
  | .fault e true => .error e
  | _ => .error .keyMustBeString

def advance (b : Builder α) (limit : Option Nat) : Position α → Token → Except Error (Position α)
  | .value stack, t => start b limit stack t
  | .firstItem stack, .listClose => .ok (finish (b.list []) stack)
  | .firstItem stack, t => start b limit (.list [] :: stack) t
  | .afterItem items stack, .listClose => .ok (finish (b.list items.reverse) stack)
  | .afterItem items stack, .comma => .ok (.nextItem items stack)
  | .afterItem _ _, _ => .error .expectedCommaOrListEnd
  | .nextItem _ _, .listClose => .error .trailingComma
  | .nextItem items stack, t => start b limit (.list items :: stack) t
  | .firstName stack, .objectClose => .ok (finish (b.object []) stack)
  | .firstName stack, t => takeName [] stack t
  | .afterName members name stack, .colon => .ok (.value (.object members name :: stack))
  | .afterName _ _ _, _ => .error .expectedColon
  | .afterMember members stack, .objectClose => .ok (finish (b.object members.reverse) stack)
  | .afterMember members stack, .comma => .ok (.nextName members stack)
  | .afterMember _ _, _ => .error .expectedCommaOrObjectEnd
  | .nextName _ _, .objectClose => .error .trailingComma
  | .nextName members stack, t => takeName members stack t
  | .done _, _ => .error .trailingCharacters

/-- What the reader has when the text ends. -/
def result : Position α → Except Error α
  | .done v => .ok v
  | .value _ | .nextItem _ _ | .nextName _ _ => .error .endInValue
  | .firstItem _ | .afterItem _ _ => .error .endInList
  | .firstName _ | .afterName _ _ _ | .afterMember _ _ => .error .endInObject

end Position

def run {α : Type} (b : Builder α) (limit : Option Nat) :
    Position α → List Token → Except Error (Position α)
  | p, [] => .ok p
  | p, t :: rest =>
    match p.advance b limit t with
    | .ok p => run b limit p rest
    | .error e => .error e

def readWith {α : Type} (b : Builder α) (limit : Option Nat) (text : String) : Except Error α :=
  match run b limit (.value []) (scan text) with
  | .ok p => p.result
  | .error e => .error e

/-! ## Trees -/

def ofScalar : Scalar → Json
  | .null => .null
  | .boolean v => .boolean v
  | .number v => .number v
  | .string v => .string v

/-- Build the tree of a document, repeated names included. -/
def builder : Builder Json := ⟨ofScalar, .array, .object⟩

/-- Build the tree of a document in which each repeated name keeps its first place and its last
value. -/
def collapsingBuilder : Builder Json := ⟨ofScalar, .array, fun ms => .object (collapseMembers ms)⟩

/-- Number of arrays and objects within each other at which a reader with a limit gives up. -/
def nestingLimit : Nat := 128

def read (text : String) : Except Error Json := readWith builder none text

/-- Read a document with limited nesting, collapsing repeated names. -/
def readCollapsed (text : String) : Except Error Json :=
  readWith collapsingBuilder (some nestingLimit) text

/-! ## Runs -/

variable {α β : Type}

/-- A run over two pieces is a run over the first and then one over the second. -/
theorem run_append (b : Builder α) (limit : Option Nat) (p : Position α) (ts us : List Token) :
    run b limit p (ts ++ us) =
      match run b limit p ts with
      | .ok p => run b limit p us
      | .error e => .error e := by
  induction ts generalizing p with
  | nil => rfl
  | cons t rest ih =>
    simp only [List.cons_append, run]
    cases p.advance b limit t with
    | ok q => exact ih q
    | error e => rfl

end JsonMarkup.Json
