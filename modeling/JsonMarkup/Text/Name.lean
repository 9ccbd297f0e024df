import JsonMarkup.Unicode.Alphabetic
import JsonMarkup.Unicode.Numeric

/-!
# Names of elements and attributes

A name starts with a letter, `_` or `:` and goes on with letters, digits, `-`, `.`, `_` and `:`,
letters and digits being those of any script. No name holds a character that means something in
markup, which is why names can be written as they are.
-/

namespace JsonMarkup.Text

open Unicode

/-- A letter or a number of any script. -/
def isAlphanumeric (c : Char) : Bool := isAlphabetic c || isNumeric c

/-- A name may start with this character. -/
def isNameStart (c : Char) : Bool := isAlphabetic c || c == '_' || c == ':'

/-- A name may go on with this character. -/
def isNameChar (c : Char) : Bool :=
  isAlphanumeric c || c == '-' || c == '.' || c == '_' || c == ':'

def isNameChars : List Char → Bool
  | [] => false
  | c :: rest => isNameStart c && rest.all isNameChar

/-- The text can name an element or an attribute. -/
def isName (s : String) : Bool := isNameChars s.toList

end JsonMarkup.Text
