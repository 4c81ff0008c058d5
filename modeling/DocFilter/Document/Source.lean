import DocFilter.Document.Node
import DocFilter.Json.Parser
import DocFilter.Json.Printer
import DocFilter.World

/-!
# Reading and writing documents

A document is read from the standard input, a file or an open stream, and written to the standard
output, a file or an open stream. It must be an object with a list of blocks; nothing else about it
is judged.
-/

namespace DocFilter

namespace Document

def logName : String := "docweave.ast.serialization"

def isDocument (v : Json) : Bool := ((v.field? "blocks").bind Json.items?).isSome

/-- The failure of a text that is no JSON. Half of a surrogate pair has a failure of its own: it is
no fault of form, but no text can hold it. -/
def unread (fault : Json.Fault) (text : String) (malformed : String → Failure) : Failure :=
  let explanation := fault.message text
  if fault.mistake = .halfPair then .unencodable explanation else malformed explanation

/-- The document that a text writes; `source` says where the text is from. -/
def ofText (text : String) (source : Option String) : Run Json := do
  let place := match source with
    | some s => if s = "" then "input" else s
    | none => "input"
  match Json.parse text with
  | .error fault => throw (unread fault text (.notJson place source))
  | .ok v =>
    if !isDocument v then throw (.notDocument place source)
    if (v.field? "pandoc-api-version").isNone then
      Run.warn logName s!"{place} has no pandoc-api-version; continuing anyway"
    return v

/-- Where a document is read from; an open stream may have a name. -/
inductive Source where
  | input
  | file (path : String)
  | stream (text : String) (name : Option String)

inductive Destination where
  | output
  | file (path : String)
  | stream

/-- The source that a path names: a single dash is the standard input. -/
def Source.ofPath (p : String) : Source := if p = "-" then .input else .file p

/-- The destination that a path names: a single dash is the standard output. -/
def Destination.ofPath (p : String) : Destination := if p = "-" then .output else .file p

def read : Source → Run Json
  | .input => do ofText (← Run.readInput) (some "<stdin>")
  | .stream text name => ofText text name
  | .file p => do
    let path := Path.tidy p
    match ← (Run.readText path).attempt with
    | .ok text => ofText text (some path)
    | .error (.os fault) =>
      if fault.refusal.code = 2 then throw (.inputMissing path fault)
      else throw (.inputUnreadable path (.os fault))
    | .error (.undecodable fault) => throw (.inputUnreadable path (.undecodable fault))
    | .error failure => throw failure

/-- Writes a document, and returns what an open stream receives. -/
def write (v : Json) (spacing : Json.Spacing) : Destination → Run String
  | .output => do
    Run.print (v.render spacing)
    return ""
  | .stream => return v.render spacing
  | .file p => do
    let path := Path.tidy p
    match ← (Run.writeText path (v.render spacing)).attempt with
    | .ok () => return ""
    | .error (.os fault) => throw (.outputUnwritable path fault)
    | .error failure => throw failure

end Document

end DocFilter
