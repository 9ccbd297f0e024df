import JsonMarkup.Source.Basic
import JsonMarkup.Text.Quoted

/-!
# Sources from any data format

A data format other than JSON hands over its values as `Data`, a tree of typed items.
`Source.ofData` accepts those that JSON could have expressed: everything except 128-bit integers,
byte arrays and wrapped values, with keys that are texts. What it refuses first, in document order
and a key before its value, is what it reports.
-/

namespace JsonMarkup

/-- A floating-point item. -/
inductive Real where
  | finite (value : Double)
  | infinite (negative : Bool)
  | nan
deriving DecidableEq

/-- An item of a data format. -/
inductive Data where
  | unit
  | none
  | some (item : Data)
  | wrapped (item : Data)
  | boolean (value : Bool)
  | integer (value : Int)
  /-- An integer of 128 bits, of the type named. -/
  | wide (type : String) (value : Int)
  | real (value : Real)
  | char (value : Char)
  | text (value : String)
  | bytes (value : ByteArray)
  | seq (items : List Data)
  | map (entries : List (Data × Data))

instance : Inhabited Data := ⟨.unit⟩

namespace Data

/-- An item that is not acceptable where it stands. -/
inductive Error where
  | notDocument (found : Data)
  | notKey (found : Data)
  /-- The bytes are not the text of a key. -/
  | keyNotText

/-- How a number of any size is named: without an exponent, a finite one with its fraction part. -/
def realText : Real → String
  | .finite x => Layout.positional.double x
  | .infinite true => "-inf"
  | .infinite false => "inf"
  | .nan => "NaN"

/-- What an item is called in a report. -/
def describe : Data → String
  | .unit => "unit value"
  | .none | .some _ => "Option value"
  | .wrapped _ => "newtype struct"
  | .boolean b => "boolean `" ++ (if b then "true" else "false") ++ "`"
  | .integer n => "integer `" ++ integerText n ++ "`"
  | .wide type n => "integer `" ++ integerText n ++ "` as " ++ type
  | .real x => "floating point `" ++ realText x ++ "`"
  | .char c => "character `" ++ c.toString ++ "`"
  | .text s => "string " ++ Text.describe s
  | .bytes _ => "byte array"
  | .seq _ => "sequence"
  | .map _ => "map"

def Error.message : Error → String
  | .notDocument found => "invalid type: " ++ found.describe ++ ", expected a JSOML document"
  | .notKey found => "invalid type: " ++ found.describe ++ ", expected a string"
  | .keyNotText => "invalid value: byte array, expected a string"

/-- The text of an item as a key. -/
def key : Data → Except Error String
  | .text s => .ok s
  | .char c => .ok c.toString
  | .bytes b =>
    match String.fromUTF8? b with
    | Option.some s => .ok s
    | Option.none => .error .keyNotText
  | found => .error (.notKey found)

/-- The number that a floating-point item stands for; only finite ones have one. -/
def realValue : Real → Value
  | .finite x => .number (.double x)
  | _ => .null

end Data

namespace Source

mutual

/-- The document that an item stands for. -/
def ofData : Data → Except Data.Error Source
  | .unit => .ok (.ready .null)
  | .none => .ok (.ready .null)
  | .some item => ofData item
  | .boolean b => .ok (.ready (.boolean b))
  | .integer n => .ok (.ready (.number (.integer n)))
  | .real x => .ok (.ready (Data.realValue x))
  | .char c => .ok (text c.toString)
  | .text s => .ok (text s)
  | .seq items => (ofDataItems items).map list
  | .map entries => (ofDataEntries entries).map mapping
  | .wrapped item => .error (.notDocument (.wrapped item))
  | .wide type n => .error (.notDocument (.wide type n))
  | .bytes b => .error (.notDocument (.bytes b))

/-- The document of each item of a sequence. -/
def ofDataItems : List Data → Except Data.Error (List Source)
  | [] => .ok []
  | item :: rest =>
    match ofData item with
    | .error e => .error e
    | .ok s => (ofDataItems rest).map (s :: ·)

/-- Key and document of each entry of a map. -/
def ofDataEntries : List (Data × Data) → Except Data.Error (List (String × Source))
  | [] => .ok []
  | (key, item) :: rest =>
    match key.key with
    | .error e => .error e
    | .ok key =>
      match ofData item with
      | .error e => .error e
      | .ok s => (ofDataEntries rest).map ((key, s) :: ·)

end

end Source

/-! ## JSON as a data format -/

namespace Data

def ofNumber : Number → Data
  | .integer n => .integer n
  | .double x => .real (.finite x)

mutual

def ofJson : Json → Data
  | .null => .unit
  | .boolean b => .boolean b
  | .number n => ofNumber n
  | .string s => .text s
  | .array items => .seq (ofJsonItems items)
  | .object members => .map (ofJsonMembers members)

/-- The items of each item of an array. -/
def ofJsonItems : List Json → List Data
  | [] => []
  | j :: rest => ofJson j :: ofJsonItems rest

def ofJsonMembers : List (String × Json) → List (Data × Data)
  | [] => []
  | (name, j) :: rest => (.text name, ofJson j) :: ofJsonMembers rest

end

end Data

end JsonMarkup
