import JsonMarkup.Cli.Command
import JsonMarkup.Text.Digit

/-!
# Arguments

The first argument that is not an option names what to do, and options and the path of the document
follow in any order. The value of an option stands behind an equals sign or in the next argument,
that of a letter also right behind it. Two dashes alone end the options.
-/

namespace JsonMarkup.Cli

/-! ## Options -/

/-- The first word of a command. -/
inductive Verb where
  | render
  | check
deriving DecidableEq, Repr

def Verb.name : Verb → String
  | .render => "render"
  | .check => "check"

def Verb.ofName? (name : String) : Option Verb := [Verb.render, .check].find? (·.name = name)

/-- An option of a command. -/
inductive Flag where
  | config
  | included
  | excluded
  | maxDepth
  | unlimitedDepth
  | format
  | output
  | verbose
deriving DecidableEq, Repr

namespace Flag

def all : List Flag :=
  [.config, .included, .excluded, .maxDepth, .unlimitedDepth, .format, .output, .verbose]

def name : Flag → String
  | .config => "config"
  | .included => "include"
  | .excluded => "exclude"
  | .maxDepth => "max-depth"
  | .unlimitedDepth => "unlimited-depth"
  | .format => "format"
  | .output => "output"
  | .verbose => "verbose"

def letter? : Flag → Option Char
  | .output => some 'o'
  | .verbose => some 'v'
  | _ => none

def hasValue : Flag → Bool
  | .unlimitedDepth => false
  | .verbose => false
  | _ => true

def belongsTo (o : Flag) (v : Verb) : Bool :=
  match o with
  | .format => v = .render
  | .output => v = .render
  | _ => true

/-- The option of a verb that has this name. -/
def ofName? (v : Verb) (name : String) : Option Flag :=
  all.find? fun o => o.belongsTo v && o.name = name

/-- The option of a verb that has this letter. -/
def ofLetter? (v : Verb) (letter : Char) : Option Flag :=
  all.find? fun o => o.belongsTo v && o.letter? = some letter

end Flag

/-- What is wrong with a command line. -/
inductive UsageError where
  | missingVerb
  /-- The verb, or an option in front of it, is not known. -/
  | unknownVerb (text : String)
  | unknownOption (text : String)
  | unexpectedValue (option : Flag)
  | missingValue (option : Flag)
  | badValue (option : Flag) (value : String)
  | repeated (option : Flag)
  | conflictingDepths
  | missingInput
  | emptyInput
  | extraInput (text : String)
deriving DecidableEq, Repr

def UsageError.message : UsageError → String
  | .missingVerb => "a command is missing: render or check"
  | .unknownVerb text => "unknown command '" ++ text ++ "'"
  | .unknownOption text => "unknown option '" ++ text ++ "'"
  | .unexpectedValue o => "option '--" ++ o.name ++ "' has no value"
  | .missingValue o => "option '--" ++ o.name ++ "' needs a value"
  | .badValue o value => "option '--" ++ o.name ++ "' cannot be '" ++ value ++ "'"
  | .repeated o => "option '--" ++ o.name ++ "' is given twice"
  | .conflictingDepths => "options '--max-depth' and '--unlimited-depth' exclude each other"
  | .missingInput => "the path of a document is missing"
  | .emptyInput => "the path of a document is empty"
  | .extraInput text => "unexpected argument '" ++ text ++ "'"

/-! ## Values -/

def Format.ofName? : String → Option Format
  | "html" => some .html
  | "json" => some .json
  | _ => none

/-- The level that a text names: decimal digits, perhaps behind a plus sign. -/
def depth? (text : String) : Option Nat :=
  let digits :=
    match text.toList with
    | '+' :: rest => rest
    | cs => cs
  (Text.decimal? digits).filter (· < depthBound)

def path? (text : String) : Option String := if text = "" then none else some text

/-! ## Reading -/

/-- What has been read of a command. -/
structure Draft where
  verb : Verb
  input? : Option String := none
  file? : Option String := none
  /-- Tags for the include list, last one first. -/
  included : List String := []
  /-- Tags for the exclude list, last one first. -/
  excluded : List String := []
  maxDepth? : Option Nat := none
  unlimited : Bool := false
  format? : Option Format := none
  output? : Option String := none

namespace Draft

/-- What a text means as the only value of an option. -/
def single {α : Type} (o : Flag) (before? : Option α) (meaning : String → Option α)
    (text : String) : Except UsageError (Option α) :=
  if before?.isSome then .error (.repeated o)
  else
    match meaning text with
    | some value => .ok (some value)
    | none => .error (.badValue o text)

def give (d : Draft) (o : Flag) (text : String) : Except UsageError Draft :=
  match o with
  | .config => return { d with file? := ← single o d.file? path? text }
  | .included => return { d with included := text :: d.included }
  | .excluded => return { d with excluded := text :: d.excluded }
  | .maxDepth => return { d with maxDepth? := ← single o d.maxDepth? depth? text }
  | .format => return { d with format? := ← single o d.format? Format.ofName? text }
  | .output => return { d with output? := ← single o d.output? path? text }
  | .unlimitedDepth => .error (.unexpectedValue o)
  | .verbose => .error (.unexpectedValue o)

/-- Give an option that has no value. -/
def raise (d : Draft) (o : Flag) : Except UsageError Draft :=
  match o with
  | .unlimitedDepth =>
    if d.unlimited then .error (.repeated o) else .ok { d with unlimited := true }
  | .verbose => .ok d
  | o => .error (.missingValue o)

def giveInput (d : Draft) (text : String) : Except UsageError Draft :=
  if d.input?.isSome then .error (.extraInput text)
  else
    match path? text with
    | some input => .ok { d with input? := some input }
    | none => .error .emptyInput

def depth (d : Draft) : Except UsageError DepthOption :=
  match d.maxDepth?, d.unlimited with
  | none, false => .ok .unsaid
  | some maxDepth, false => .ok (.limit maxDepth)
  | none, true => .ok .unlimited
  | some _, true => .error .conflictingDepths

def action (d : Draft) : Action :=
  match d.verb with
  | .render => .render (d.format?.getD .html) d.output?
  | .check => .check

def command (d : Draft) : Except UsageError Command :=
  match d.input? with
  | none => .error .missingInput
  | some input => do
    let depth ← d.depth
    return ⟨input, ⟨d.file?, d.included.reverse, d.excluded.reverse, depth⟩, d.action⟩

end Draft

/-- Where a reader of arguments stands. -/
inductive Stage where
  | options (draft : Draft)
  | value (draft : Draft) (option : Flag)
  | inputs (draft : Draft)

namespace Stage

/-- The argument has the look of an option. A dash alone has not. -/
def looksLikeOption (arg : String) : Bool := arg.toList.head? = some '-' && arg != "-"

/-- Take an option by its name, perhaps with its value. -/
def longOption (d : Draft) (text : List Char) : Except UsageError Stage :=
  let name := String.ofList (text.takeWhile (· ≠ '='))
  match Flag.ofName? d.verb name, text.dropWhile (· ≠ '=') with
  | none, _ => .error (.unknownOption ("--" ++ name))
  | some o, [] => if o.hasValue then .ok (.value d o) else .options <$> d.raise o
  | some o, _ :: given =>
    if o.hasValue then .options <$> d.give o (String.ofList given)
    else .error (.unexpectedValue o)

/-- Take options by their letters. The first one that has a value ends them. -/
def letters (d : Draft) : List Char → Except UsageError Stage
  | [] => .ok (.options d)
  | c :: rest =>
    match Flag.ofLetter? d.verb c with
    | none => .error (.unknownOption (String.ofList ['-', c]))
    | some o =>
      if o.hasValue then
        match rest with
        | [] => .ok (.value d o)
        | '=' :: given => .options <$> d.give o (String.ofList given)
        | given => .options <$> d.give o (String.ofList given)
      else
        match d.raise o with
        | .ok d => letters d rest
        | .error e => .error e

def advance (s : Stage) (arg : String) : Except UsageError Stage :=
  match s with
  | .inputs d => .inputs <$> d.giveInput arg
  | .value d o =>
    if looksLikeOption arg then .error (.missingValue o) else .options <$> d.give o arg
  | .options d =>
    match arg.toList with
    | ['-', '-'] => .ok (.inputs d)
    | '-' :: '-' :: text => longOption d text
    | '-' :: c :: text => letters d (c :: text)
    | _ => .options <$> d.giveInput arg

/-- The command, if the arguments may end here. -/
def finish : Stage → Except UsageError Command
  | .options d => d.command
  | .value _ o => .error (.missingValue o)
  | .inputs d => d.command

end Stage

/-- What a command line asks for. -/
inductive Request where
  | version
  | run (command : Command)
deriving DecidableEq, Repr

/-- Options in front of a verb, by their letters. The first that asks for something decides. -/
def leadingLetters : List Char → Except UsageError (Option Request)
  | [] => .ok none
  | 'v' :: rest => leadingLetters rest
  | 'V' :: _ => .ok (some .version)
  | c :: _ => .error (.unknownOption (String.ofList ['-', c]))

/-- An option in front of a verb, and what it asks for, if anything. -/
def leading (arg : String) : Except UsageError (Option Request) :=
  match arg.toList with
  | '-' :: '-' :: name =>
    if name = "verbose".toList then .ok none
    else if name = "version".toList then .ok (some .version)
    else .error (.unknownOption arg)
  | '-' :: c :: rest => leadingLetters (c :: rest)
  | _ => .error (.unknownVerb arg)

def Request.ofArguments : List String → Except UsageError Request
  | [] => .error .missingVerb
  | arg :: rest =>
    match Verb.ofName? arg with
    | some verb => do
      let stage ← rest.foldlM Stage.advance (.options { verb })
      return .run (← stage.finish)
    | none =>
      match leading arg with
      | .ok none => ofArguments rest
      | .ok (some request) => .ok request
      | .error e => .error e

end JsonMarkup.Cli
