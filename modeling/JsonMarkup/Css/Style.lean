import JsonMarkup.Css.PropertyName
import JsonMarkup.Fields
import JsonMarkup.Text.Blank

/-!
# Inline style

A style is raw text, properties merged one by one, or both. Properties are kept under their
style-sheet names, so that every spelling of a name means the same property. Assigning raw text
discards what was merged before.
-/

namespace JsonMarkup

/-- The inline style of an element. -/
structure Style where
  text : Option String
  properties : Fields String

namespace Style

open Css

def empty : Style := ⟨none, Fields.empty⟩

instance : Inhabited Style := ⟨empty⟩

/-- No text was assigned and no property is set. -/
def isEmpty (s : Style) : Bool := s.text.isNone && s.properties.isEmpty

/-- Replace the whole style by raw text. -/
def setText (_ : Style) (text : String) : Style := ⟨some text, Fields.empty⟩

def setProperty (s : Style) (name value : String) : Style :=
  { s with properties := s.properties.set (propertyName name) value }

def removeProperty (s : Style) (name : String) : Style :=
  { s with properties := s.properties.erase (propertyName name) }

def property? (s : Style) (name : String) : Option String :=
  s.properties.get? (propertyName name)

/-- Raw text as a declaration: without blanks around it, and then without semicolons at its
end. -/
def trimText (text : String) : String :=
  String.ofList (Text.dropTailWhile (· == ';') (Text.trim text.toList))

/-- The raw text and the properties as declarations, in this order. -/
def declarations (s : Style) : List String :=
  let raw := (s.text.map trimText).toList.filter (· ≠ "")
  raw ++ s.properties.toList.map fun p => p.1 ++ ": " ++ p.2

def toCss (s : Style) : String := "; ".intercalate s.declarations

end Style

end JsonMarkup
