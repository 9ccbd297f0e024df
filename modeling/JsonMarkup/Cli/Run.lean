import JsonMarkup.Cli.Arguments
import JsonMarkup.Cli.Path
import JsonMarkup.Node.Diagnostic
import JsonMarkup.Node.Json
import JsonMarkup.Policy.Toml
import JsonMarkup.Render.Stream

/-!
# Running commands

A command reads the policy, then the document, renders it, and answers with a `Report`. It meets
the world through a `Host` only, so that the same definition runs on files and on a folder that is
held in memory.
-/

namespace JsonMarkup.Cli

/-! ## Reports -/

/-- Why a command fails. -/
inductive Failure where
  | unreadable (path : String)
  | unreadableInput
  | notAPolicy (path : String)
  | notJson (path : String)
  | unwritable (path : String)
  | fragments (count : Nat)
deriving DecidableEq, Repr

def Failure.message : Failure → String
  | .unreadable path => "failed to read " ++ path
  | .unreadableInput => "failed to read standard input"
  | .notAPolicy path => "failed to parse " ++ path
  | .notJson path => path ++ " is not valid JSON"
  | .unwritable path => "failed to write " ++ path
  | .fragments count => Nat.repr count ++ " fragment(s) failed to render"

/-- How a command ends. -/
inductive Status where
  | success
  | failed (cause : Failure)
  | misused (cause : UsageError)
deriving DecidableEq, Repr

/-- What comes of a command. -/
structure Report where
  output : String := ""
  /-- Number of fragments that a rendering shows as error nodes, if it has any. -/
  errorNodes? : Option Nat := none
  status : Status := .success
deriving DecidableEq, Repr

namespace Report

def exitCode (r : Report) : Nat :=
  match r.status with
  | .success => 0
  | .failed _ => 1
  | .misused _ => 2

def warning? (r : Report) : Option String :=
  r.errorNodes?.map fun n =>
    "warning: " ++ Nat.repr n ++
      " fragment(s) rendered as error nodes; run `jsoml check` for details"

def failure? (r : Report) : Option String :=
  match r.status with
  | .failed cause => some cause.message
  | _ => none

end Report

/-- The name and version of the program. -/
def versionLine : String := "jsoml 0.1.0\n"

/-! ## Nodes -/

/-- The error nodes of a rendering, in document order. -/
def diagnosticsOf (nodes : List Node) : List Diagnostic := nodes.flatMap Node.diagnostics

/-- Number of error nodes of a rendering, unless there are none. -/
def errorCount? (nodes : List Node) : Option Nat :=
  match diagnosticsOf nodes with
  | [] => none
  | ds => some ds.length

def Format.write (nodes : List Node) : Format → String
  | .html => String.join (Node.toHtmlAll nodes)
  | .json => (Json.array (nodes.map Node.toJson)).pretty

def diagnosticLine (d : Diagnostic) : String := "  [error] " ++ d.text ++ "\n"

/-- What a check finds in a rendering: it fails if there is an error node, and lists all of them. -/
def checkReport (nodes : List Node) : Report :=
  match diagnosticsOf nodes with
  | [] =>
    { output := "[ok] " ++ Nat.repr nodes.length ++ " top-level node(s) rendered cleanly\n" }
  | ds =>
    { output := String.join (ds.map diagnosticLine), status := .failed (.fragments ds.length) }

/-! ## The world -/

/-- What a command can do to the world. -/
structure Host (m : Type → Type) where
  /-- Read the text of a file, if there is one. -/
  readFile : String → m (Option String)
  /-- Read the text of standard input, if it is one. -/
  readInput : m (Option String)
  /-- Make a text the contents of a file; the answer tells whether that was possible. -/
  writeFile : String → String → m Bool

section

variable {m : Type → Type} [Monad m] (host : Host m)

/-- Read a policy from the text of a file, whose name tells the format. -/
def readPolicy? (path text : String) : Option Policy :=
  if Path.isJson path then (Policy.read text).toOption else Policy.readToml text

def policyFile (path : String) : ExceptT Failure m Policy := do
  let some text ← ExceptT.lift (host.readFile path) | throw (.unreadable path)
  let some policy := readPolicy? path text | throw (.notAPolicy path)
  return policy

def PolicyOptions.resolve (o : PolicyOptions) : ExceptT Failure m Policy :=
  match o.file? with
  | some path => o.overlay <$> policyFile host path
  | none => return o.overlay .standard

def documentText (path : String) : ExceptT Failure m String := do
  if Path.isStandardInput path then
    let some text ← ExceptT.lift host.readInput | throw .unreadableInput
    return text
  else
    let some text ← ExceptT.lift (host.readFile path) | throw (.unreadable path)
    return text

def document (path : String) : ExceptT Failure m Source := do
  match Source.read (← documentText host path) with
  | .ok source => return source
  | .error _ => throw (.notJson path)

/-- The nodes that a command is about. -/
def Command.nodes (c : Command) : ExceptT Failure m (List Node) := do
  let policy ← c.policy.resolve host
  return Render.renderNodes policy (← document host c.input)

/-- Write nodes to standard output or to a file. -/
def write (nodes : List Node) (format : Format) (output? : Option String) : m Report := do
  let text := format.write nodes
  let errorNodes? := errorCount? nodes
  match output? with
  | none => return { output := text ++ "\n", errorNodes? }
  | some path =>
    if ← host.writeFile path text then return { errorNodes? }
    else return { errorNodes?, status := .failed (.unwritable path) }

def Command.run (c : Command) : m Report := do
  match ← (c.nodes host).run with
  | .error cause => return { status := .failed cause }
  | .ok nodes =>
    match c.action with
    | .render format output? => write host nodes format output?
    | .check => return checkReport nodes

def answer (args : List String) : m Report :=
  match Request.ofArguments args with
  | .error cause => return { status := .misused cause }
  | .ok .version => return { output := versionLine }
  | .ok (.run command) => command.run host

end

end JsonMarkup.Cli
