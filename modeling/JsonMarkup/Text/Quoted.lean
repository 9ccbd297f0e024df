import JsonMarkup.Unicode.Combining
import JsonMarkup.Unicode.Unprintable

/-!
# Quoted descriptions of texts

How a report quotes a text that was found where it does not belong: quotes and backslashes are
escaped, characters that would not show are given by number.
-/

namespace JsonMarkup.Text

open Unicode

/-- A number in hexadecimal, without zeros in front. -/
def hex (n : Nat) : List Char := Nat.toDigits 16 n

def describeChar (c : Char) : List Char :=
  if c = '"' ∨ c = '\\' then ['\\', c]
  else if c = '\t' then ['\\', 't']
  else if c = '\n' then ['\\', 'n']
  else if c = '\r' then ['\\', 'r']
  else if c = Char.ofNat 0 then ['\\', '0']
  else if isCombining c || isUnprintable c then
    ['\\', 'u', '\x7b'] ++ hex c.toNat ++ ['\x7d']
  else [c]

def describe (s : String) : String :=
  "\"" ++ String.ofList (s.toList.flatMap describeChar) ++ "\""

end JsonMarkup.Text
