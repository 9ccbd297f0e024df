import JsonMarkup.Json.Reader
import JsonMarkup.Json.Writer
import JsonMarkup.Policy.Basic
import JsonMarkup.Text.Quoted

/-!
# Policies as JSON

A policy is written as an object with three members. It is read from such an object, in which
members may stand in any order and may be missing, or from an array of up to three values in the
order of the members. `null` stands for an unset set of tags or an unlimited depth, a missing
member for the default.

The reader takes one token at a time and reports the first thing that is wrong, so that a value of
the wrong type is found before a mistake in the grammar further on.
-/

namespace JsonMarkup

namespace Policy

/-- A member of a policy. -/
inductive Field where
  | included
  | excluded
  | maxDepth
deriving DecidableEq

def Field.name : Field → String
  | .included => "includedTags"
  | .excluded => "excludedTags"
  | .maxDepth => "maxDepth"

def Field.ofName? (name : String) : Option Field :=
  [Field.included, .excluded, .maxDepth].find? (·.name = name)

/-! ## Writing -/

/-- The JSON form of an optional set of tags. -/
def tagsJson : Option TagSet → Json
  | none => .null
  | some s => .array (s.tags.map .string)

/-- The JSON form of a policy; all three members are always there. -/
def toJson (p : Policy) : Json :=
  .object [
    (Field.included.name, tagsJson p.included),
    (Field.excluded.name, tagsJson p.excluded),
    (Field.maxDepth.name, (p.maxDepth.map Json.nat).getD .null)]

/-! ## What can be wrong -/

/-- What is expected where something else was found. -/
inductive Expected where
  | policy
  | tags
  | tag
  | depth
deriving DecidableEq

def Expected.text : Expected → String
  | .policy => "struct RenderConfig"
  | .tags => "a sequence"
  | .tag => "a string"
  | .depth => "usize"

/-- What was found where something else is expected. -/
inductive Found where
  | scalar (value : Json.Scalar)
  | list
  | object
deriving DecidableEq

def Found.text : Found → String
  | .scalar .null => "null"
  | .scalar (.boolean b) => "boolean `" ++ (if b then "true" else "false") ++ "`"
  | .scalar (.number (.integer n)) => "integer `" ++ integerText n ++ "`"
  | .scalar (.number (.double x)) => "floating point `" ++ Layout.document.double x ++ "`"
  | .scalar (.string s) => "string " ++ Text.describe s
  | .list => "sequence"
  | .object => "map"

/-- Why a text is not a policy. -/
inductive ReadError where
  | grammar (error : Json.Error)
  | unknownField (name : String)
  | duplicateField (field : Field)
  | wrongType (found : Found) (expected : Expected)
  | negativeDepth (value : Int)
deriving DecidableEq

def ReadError.message : ReadError → String
  | .grammar e => e.message
  | .unknownField name =>
    "unknown field `" ++ name ++
      "`, expected one of `includedTags`, `excludedTags`, `maxDepth`"
  | .duplicateField field => "duplicate field `" ++ field.name ++ "`"
  | .wrongType found expected => "invalid type: " ++ found.text ++ ", expected " ++ expected.text
  | .negativeDepth n => "invalid value: integer `" ++ integerText n ++ "`, expected usize"

/-! ## Reading -/

/-- What has been read of a policy: members that are still missing are `none`. -/
structure Draft where
  included : Option (Option TagSet) := none
  excluded : Option (Option TagSet) := none
  maxDepth : Option (Option Nat) := none

namespace Draft

def has (d : Draft) : Field → Bool
  | .included => d.included.isSome
  | .excluded => d.excluded.isSome
  | .maxDepth => d.maxDepth.isSome

/-- Give a set of tags; a level is not one. -/
def setTags (d : Draft) (tags : Option TagSet) : Field → Draft
  | .included => { d with included := some tags }
  | .excluded => { d with excluded := some tags }
  | .maxDepth => d

/-- Give a member that is `null`. -/
def setNull (d : Draft) : Field → Draft
  | .included => { d with included := some none }
  | .excluded => { d with excluded := some none }
  | .maxDepth => { d with maxDepth := some none }

/-- The policy, with defaults for what is missing. -/
def finish (d : Draft) : Policy where
  included := d.included.getD standard.included
  excluded := d.excluded.getD standard.excluded
  maxDepth := d.maxDepth.getD standard.maxDepth

end Draft

/-- Where a reader stands between two tokens. -/
inductive Position where
  | start
  | firstName
  | afterName (field : Field)
  | value (field : Field)
  | afterMember
  | nextName
  | firstElement
  /-- After an element of a policy; the member that the next one is for. -/
  | afterElement (next : Option Field)
  | nextElement (field : Field)
  | pastElements
  /-- After the opening bracket of a set of tags. -/
  | firstTag (field : Field) (inArray : Bool)
  | afterTag (field : Field) (inArray : Bool) (tags : TagSet)
  | nextTag (field : Field) (inArray : Bool) (tags : TagSet)
  | done

/-- A reader: what it has read, and where it stands. -/
structure Reader where
  draft : Draft
  position : Position

namespace Reader

open Json (Token)

def bad {α : Type} (e : Json.Error) : Except ReadError α := .error (.grammar e)

/-- Refuse a token where something else is expected. -/
def refuse {α : Type} (expected : Expected) : Token → Except ReadError α
  | .scalar s => .error (.wrongType (.scalar s) expected)
  | .listOpen => .error (.wrongType .list expected)
  | .objectOpen => .error (.wrongType .object expected)
  | .fault e _ => bad e
  | _ => bad .expectedValue

/-- Where the reader stands once the value of a member is finished. -/
def afterValue (field : Field) (inArray : Bool) : Position :=
  if inArray then
    .afterElement (match field with
      | .included => some .excluded
      | .excluded => some .maxDepth
      | .maxDepth => none)
  else .afterMember

/-- Take the first token of the value of a member. -/
def takeValue (d : Draft) (field : Field) (inArray : Bool) : Token → Except ReadError Reader
  | .scalar .null => .ok ⟨d.setNull field, afterValue field inArray⟩
  | .listOpen =>
    if field = .maxDepth then refuse .depth .listOpen else .ok ⟨d, .firstTag field inArray⟩
  | .scalar (.number (.integer n)) =>
    if field = .maxDepth then
      if n < 0 then .error (.negativeDepth n)
      else .ok ⟨{ d with maxDepth := some (some n.toNat) }, afterValue field inArray⟩
    else refuse .tags (.scalar (.number (.integer n)))
  | t => refuse (if field = .maxDepth then .depth else .tags) t

def takeName (d : Draft) : Token → Except ReadError Reader
  | .scalar (.string name) =>
    match Field.ofName? name with
    | none => .error (.unknownField name)
    | some field =>
      if d.has field then .error (.duplicateField field) else .ok ⟨d, .afterName field⟩
  | .fault e true => bad e
  | _ => bad .keyMustBeString

def takeTag (d : Draft) (field : Field) (inArray : Bool) (tags : TagSet) :
    Token → Except ReadError Reader
  | .scalar (.string tag) => .ok ⟨d, .afterTag field inArray (tags.insert tag)⟩
  | t => refuse .tag t

def closeTags (d : Draft) (field : Field) (inArray : Bool) (tags : TagSet) : Reader :=
  ⟨d.setTags (some tags) field, afterValue field inArray⟩

def advance (r : Reader) (t : Token) : Except ReadError Reader :=
  let d := r.draft
  match r.position, t with
  | .start, .objectOpen => .ok ⟨d, .firstName⟩
  | .start, .listOpen => .ok ⟨d, .firstElement⟩
  | .start, t => refuse .policy t
  | .firstName, .objectClose => .ok ⟨d, .done⟩
  | .firstName, t => takeName d t
  | .afterName field, .colon => .ok ⟨d, .value field⟩
  | .afterName _, _ => bad .expectedColon
  | .value field, t => takeValue d field false t
  | .afterMember, .objectClose => .ok ⟨d, .done⟩
  | .afterMember, .comma => .ok ⟨d, .nextName⟩
  | .afterMember, _ => bad .expectedCommaOrObjectEnd
  | .nextName, .objectClose => bad .trailingComma
  | .nextName, t => takeName d t
  | .firstElement, .listClose => .ok ⟨d, .done⟩
  | .firstElement, t => takeValue d .included true t
  | .afterElement _, .listClose => .ok ⟨d, .done⟩
  | .afterElement (some field), .comma => .ok ⟨d, .nextElement field⟩
  | .afterElement (some _), _ => bad .expectedCommaOrListEnd
  | .afterElement none, .comma => .ok ⟨d, .pastElements⟩
  | .afterElement none, _ => bad .trailingCharacters
  | .nextElement _, .listClose => bad .trailingComma
  | .nextElement field, t => takeValue d field true t
  | .pastElements, .listClose => bad .trailingComma
  | .pastElements, _ => bad .trailingCharacters
  | .firstTag field inArray, .listClose => .ok (closeTags d field inArray .empty)
  | .firstTag field inArray, t => takeTag d field inArray .empty t
  | .afterTag field inArray tags, .listClose => .ok (closeTags d field inArray tags)
  | .afterTag field inArray tags, .comma => .ok ⟨d, .nextTag field inArray tags⟩
  | .afterTag _ _ _, _ => bad .expectedCommaOrListEnd
  | .nextTag _ _ _, .listClose => bad .trailingComma
  | .nextTag field inArray tags, t => takeTag d field inArray tags t
  | .done, _ => bad .trailingCharacters

/-- What the reader has when the text ends. -/
def result (r : Reader) : Except ReadError Policy :=
  match r.position with
  | .done => .ok r.draft.finish
  | .start | .value _ | .nextName | .nextElement _ | .nextTag _ _ _ => bad .endInValue
  | .firstName | .afterName _ | .afterMember => bad .endInObject
  | .firstElement | .afterElement _ | .firstTag _ _ | .afterTag _ _ _ => bad .endInList
  | .pastElements => bad .trailingCharacters

def run : Reader → List Token → Except ReadError Reader
  | r, [] => .ok r
  | r, t :: rest =>
    match r.advance t with
    | .ok r => run r rest
    | .error e => .error e

end Reader

def read (text : String) : Except ReadError Policy :=
  match Reader.run ⟨{}, .start⟩ (Json.scan text) with
  | .ok r => r.result
  | .error e => .error e

end Policy

end JsonMarkup
