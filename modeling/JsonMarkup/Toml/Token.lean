import JsonMarkup.Text.Digit

/-!
# Tokens of TOML text

`scan` cuts a text into tokens, one character at a time. It knows the part of the format in which
flat tables of strings, integers and lists are written: line ends, comments, bare words, and
strings between single or double quotes, on one line or on several. A text that holds anything else
has no tokens.

A line may end in a line feed alone or in a carriage return and a line feed; both are one line end,
and a line feed inside a string.
-/

namespace JsonMarkup.Toml

/-- A token. -/
inductive Token where
  | lineEnd
  | equals
  | listOpen
  | listClose
  | comma
  | word (text : String)
  /-- A string, and whether it is written so that it may run over several lines. -/
  | string (value : String) (onLines : Bool)
deriving DecidableEq

/-! ## Characters -/

def isBlank (c : Char) : Bool := c == ' ' || c == '\t'

/-- A control character that may stand neither in a string nor in a comment. -/
def isForbidden (c : Char) : Bool := (c.toNat < 0x20 && c != '\t') || c.toNat == 0x7F

/-- A character of a bare key, of an integer or of its sign. -/
def isWordChar (c : Char) : Bool := c.isAlphanum || c == '_' || c == '-' || c == '+'

/-- A character that is a token by itself. -/
def punctuation? (c : Char) : Option Token :=
  match c with
  | '\n' => some .lineEnd
  | '=' => some .equals
  | '[' => some .listOpen
  | ']' => some .listClose
  | ',' => some .comma
  | _ => none

/-- The character that a backslash and a letter stand for. -/
def escaped? (c : Char) : Option Char :=
  match c with
  | 'b' => some (Char.ofNat 8)
  | 't' => some '\t'
  | 'n' => some '\n'
  | 'f' => some (Char.ofNat 12)
  | 'r' => some '\r'
  | '"' => some '"'
  | '\\' => some '\\'
  | _ => none

/-- Make a line feed of each line end. -/
def joinLineEnds : List Char → List Char
  | '\r' :: '\n' :: rest => '\n' :: joinLineEnds rest
  | c :: rest => c :: joinLineEnds rest
  | [] => []

/-! ## Between two characters -/

/-- How a string is written. -/
structure Form where
  /-- It stands between double quotes, and backslashes escape in it. -/
  escapes : Bool
  /-- It stands between quotes of three, and may run over several lines. -/
  onLines : Bool
deriving DecidableEq

def Form.mark (f : Form) : Char := if f.escapes then '"' else '\''

/-- What has begun and not ended; `done` holds characters so far, last one first. -/
inductive Mode where
  | between
  | comment
  | word (done : List Char)
  | opened (escapes : Bool)
  /-- Two quotes: an empty string, or the start of three. -/
  | openedTwice (escapes : Bool)
  /-- Three quotes; a line end right behind them does not count. -/
  | openedThrice (escapes : Bool)
  | text (form : Form) (done : List Char)
  | escape (form : Form) (done : List Char)
  /-- A character given by its number, of which so many digits are missing. -/
  | code (form : Form) (done : List Char) (missing value : Nat)
  /-- Blanks behind a backslash, and whether a line has ended among them. -/
  | fold (form : Form) (done : List Char) (ended : Bool)
  /-- Quotes in a row in a string on several lines. -/
  | quotes (form : Form) (done : List Char) (count : Nat)

/-- A text up to some character. -/
structure Lexer where
  /-- The tokens, last one first. -/
  tokens : List Token
  mode : Mode

namespace Lexer

variable (ts : List Token)

def text (done : List Char) (onLines : Bool) : Token :=
  .string (String.ofList done.reverse) onLines

def between (c : Char) : Option Lexer :=
  if isBlank c then some ⟨ts, .between⟩
  else if c = '#' then some ⟨ts, .comment⟩
  else if c = '"' then some ⟨ts, .opened true⟩
  else if c = '\'' then some ⟨ts, .opened false⟩
  else if isWordChar c then some ⟨ts, .word [c]⟩
  else (punctuation? c).map fun t => ⟨t :: ts, .between⟩

def inText (f : Form) (done : List Char) (c : Char) : Option Lexer :=
  if c = f.mark then
    some (if f.onLines then ⟨ts, .quotes f done 1⟩ else ⟨text done false :: ts, .between⟩)
  else if c = '\\' ∧ f.escapes then some ⟨ts, .escape f done⟩
  else if (c = '\n' ∧ f.onLines) ∨ !isForbidden c then some ⟨ts, .text f (c :: done)⟩
  else none

def inEscape (f : Form) (done : List Char) (c : Char) : Option Lexer :=
  match escaped? c with
  | some e => some ⟨ts, .text f (e :: done)⟩
  | none =>
    if c = 'u' then some ⟨ts, .code f done 4 0⟩
    else if c = 'U' then some ⟨ts, .code f done 8 0⟩
    else if f.onLines ∧ (isBlank c ∨ c = '\n') then some ⟨ts, .fold f done (c == '\n')⟩
    else none

/-- Take a digit of the number of a character. Surrogates are no characters. -/
def inCode (f : Form) (done : List Char) (missing value : Nat) (c : Char) : Option Lexer :=
  match Text.hexDigit? c with
  | none => none
  | some d =>
    let value := value * 16 + d
    if 1 < missing then some ⟨ts, .code f done (missing - 1) value⟩
    else if value.isValidChar then some ⟨ts, .text f (Char.ofNat value :: done)⟩
    else none

/-- Take a character behind a backslash at the end of a line, up to which blanks and line ends do
not count. -/
def inFold (f : Form) (done : List Char) (ended : Bool) (c : Char) : Option Lexer :=
  if c = '\n' then some ⟨ts, .fold f done true⟩
  else if isBlank c then some ⟨ts, .fold f done ended⟩
  else if ended then inText ts f done c
  else none

/-- Take a character behind quotes in a row. Three of them end the string, and up to two before
these belong to it. -/
def inQuotes (f : Form) (done : List Char) (count : Nat) (c : Char) : Option Lexer :=
  if c = f.mark ∧ count < 5 then some ⟨ts, .quotes f done (count + 1)⟩
  else if count < 3 then inText ts f (List.replicate count f.mark ++ done) c
  else between (text (List.replicate (count - 3) f.mark ++ done) true :: ts) c

def advance (l : Lexer) (c : Char) : Option Lexer :=
  let ts := l.tokens
  match l.mode with
  | .between => between ts c
  | .comment => if c = '\n' then between ts c else if isForbidden c then none else some l
  | .word done =>
    if isWordChar c then some ⟨ts, .word (c :: done)⟩
    else between (.word (String.ofList done.reverse) :: ts) c
  | .opened escapes =>
    let f : Form := ⟨escapes, false⟩
    if c = f.mark then some ⟨ts, .openedTwice escapes⟩ else inText ts f [] c
  | .openedTwice escapes =>
    if c = (Form.mark ⟨escapes, true⟩) then some ⟨ts, .openedThrice escapes⟩
    else between (.string "" false :: ts) c
  | .openedThrice escapes =>
    let f : Form := ⟨escapes, true⟩
    if c = '\n' then some ⟨ts, .text f []⟩ else inText ts f [] c
  | .text f done => inText ts f done c
  | .escape f done => inEscape ts f done c
  | .code f done missing value => inCode ts f done missing value c
  | .fold f done ended => inFold ts f done ended c
  | .quotes f done count => inQuotes ts f done count c

/-- The tokens, if the text may end here. -/
def finish (l : Lexer) : Option (List Token) :=
  match l.mode with
  | .between | .comment => some l.tokens.reverse
  | .word done => some (.word (String.ofList done.reverse) :: l.tokens).reverse
  | .openedTwice _ => some (.string "" false :: l.tokens).reverse
  | .quotes f done count =>
    if count < 3 then none
    else some (text (List.replicate (count - 3) f.mark ++ done) true :: l.tokens).reverse
  | _ => none

end Lexer

/-- The tokens of a text. A byte order mark in front of it does not count. -/
def scan (text : String) : Option (List Token) :=
  let cs := joinLineEnds text.toList
  let cs := if cs.head? = some '\uFEFF' then cs.tail else cs
  (cs.foldlM Lexer.advance ⟨[], .between⟩).bind Lexer.finish

end JsonMarkup.Toml
