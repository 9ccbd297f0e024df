import JsonMarkup.Text.Name
import JsonMarkup.Unicode.Uppercase
import JsonMarkup.Unicode.Lowercase
import JsonMarkup.Unicode.Lowering

/-!
# Names of style properties

A style property may be named as in a script (`fontWeight`) or as in a style sheet (`font-weight`);
`propertyName` gives the second form. A script-style name is cut into words, which are lower-cased
and joined by dashes. Custom properties, names that hold a dash and names without a capital stay as
they are.

Words end at every character that is neither letter nor digit, between a small letter and a
capital, and before the last capital of a run that a small letter follows (`URLValue` is `URL` and
`Value`).
-/

namespace JsonMarkup.Css

open Unicode Text

/-! ## Words -/

/-- The pieces between the characters that satisfy `p`. -/
def splitWhere (p : Char → Bool) : List Char → List (List Char)
  | [] => [[]]
  | c :: rest =>
    if p c then [] :: splitWhere p rest
    else
      match splitWhere p rest with
      | [] => [[c]]
      | piece :: pieces => (c :: piece) :: pieces

/-- Case of the last cased character of the word so far. -/
inductive CaseMode where
  | start
  | lower
  | upper
deriving DecidableEq, Repr

/-- The mode after one more character; an uncased one keeps it. -/
def CaseMode.after (mode : CaseMode) (c : Char) : CaseMode :=
  if isLowercase c then .lower else if isUppercase c then .upper else mode

/-- Cut an alphanumeric piece into words by case, `word` being what the current word has so far. -/
def wordsFrom (mode : CaseMode) (word : List Char) : List Char → List (List Char)
  | [] => []
  | [c] => [word ++ [c]]
  | c :: d :: rest =>
    if mode.after c = .lower ∧ isUppercase d then
      (word ++ [c]) :: wordsFrom .start [] (d :: rest)
    else if mode = .upper ∧ isUppercase c ∧ isLowercase d then
      word :: wordsFrom .start [c] (d :: rest)
    else wordsFrom (mode.after c) (word ++ [c]) (d :: rest)

def words (cs : List Char) : List (List Char) :=
  (splitWhere (fun c => !isAlphanumeric c) cs).flatMap (wordsFrom .start [])

/-- A word in lower case; a sigma at its end takes its final form. -/
def lowerWord : List Char → List Char
  | [] => []
  | c :: rest =>
    if c = 'Σ' ∧ rest = [] then ['ς'] else toLower c ++ lowerWord rest

/-- The words of a text in lower case, joined by dashes. -/
def kebab (cs : List Char) : List Char := ['-'].intercalate ((words cs).map lowerWord)

/-! ## Property names -/

/-- Starts of script-style names that stand for a vendor's own properties. -/
def vendorStarts : List String := ["Webkit", "webkit", "Moz", "moz", "ms"]

/-- The name goes on with a capital after one of the vendor starts. -/
def hasVendorStart (cs : List Char) : Bool :=
  vendorStarts.any fun v =>
    v.toList.isPrefixOf cs && (cs.drop v.length).head?.any isUppercase

/-- The name is in style-sheet form already: a custom property, dashed, or without a capital. -/
def isDashed (cs : List Char) : Bool :=
  ['-', '-'].isPrefixOf cs || cs.contains '-' || !cs.any isUppercase

/-- The style-sheet form of a property name. -/
def propertyName (name : String) : String :=
  if name = "cssFloat" then "float"
  else if isDashed name.toList then name
  else if hasVendorStart name.toList then String.ofList ('-' :: kebab name.toList)
  else String.ofList (kebab name.toList)

end JsonMarkup.Css
