import JsonMarkup.Node.Basic

/-!
# Output nodes as HTML

Texts and attribute values are escaped, names are written as they are. A void element has no end
tag, and its children are not written. An error node is shown as an element in a conspicuous style.
-/

namespace JsonMarkup

namespace Html

/-- Elements that never have an end tag. -/
def voidElements : List String :=
  ["area", "base", "br", "col", "embed", "hr", "img", "input", "link", "meta", "source", "track",
    "wbr"]

/-- The element never has an end tag; case does not matter. -/
def isVoid (tag : String) : Bool := voidElements.contains tag.toLower

/-- A character as it stands in text and attribute values. -/
def escapeChar (c : Char) : List Char :=
  if c = '&' then "&amp;".toList
  else if c = '<' then "&lt;".toList
  else if c = '>' then "&gt;".toList
  else if c = '"' then "&quot;".toList
  else if c = '\'' then "&#39;".toList
  else [c]

/-- A text as it stands in markup. -/
def escape (s : String) : String := String.ofList (s.toList.flatMap escapeChar)

/-- An attribute with the space in front of it. -/
def namedValue (name value : String) : String := " " ++ name ++ "=\"" ++ escape value ++ "\""

/-- The style of an error node as declarations. -/
def errorCss : String := "; ".intercalate (Node.errorStyle.map fun p => p.1 ++ ": " ++ p.2)

end Html

namespace Node

open Html

def startTag (tag : String) (attributes : Fields String) (style : Style) : String :=
  "<" ++ tag ++ String.join (attributes.toList.map fun a => namedValue a.1 a.2) ++
    (if style.isEmpty then "" else namedValue "style" style.toCss) ++ ">"

mutual

def toHtml : Node → String
  | .text content => escape content
  | .error message =>
    "<" ++ errorTag ++ namedValue "style" errorCss ++ ">" ++ escape message ++
      "</" ++ errorTag ++ ">"
  | .element tag attributes style children =>
    if isVoid tag then startTag tag attributes style
    else
      startTag tag attributes style ++ String.join (toHtmlAll children) ++ "</" ++ tag ++ ">"

def toHtmlAll : List Node → List String
  | [] => []
  | n :: rest => n.toHtml :: toHtmlAll rest

end

end Node

end JsonMarkup
