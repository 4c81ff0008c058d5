import DocFilter.Document.Source
import DocFilter.Text.Blank

/-!
# Markup to documents

Markup is turned into a document by a program that reads it on its input and writes the document on
its output.
-/

namespace DocFilter

abbrev Converter := String → Run Json

/-- The pandoc program as a converter: which program to run, the format that it reads, and further
arguments. -/
structure Pandoc where
  executable : Json
  format : Json
  arguments : List Json

namespace Pandoc

def logName : String := "docweave.converter"

def ofExecutable (executable : Json) : Pandoc := ⟨executable, .str "markdown", []⟩

def command (p : Pandoc) : List Json :=
  [p.executable, .str "-f", p.format, .str "-t", .str "json"] ++ p.arguments

/-- The words of a command line, of which each must be a text. -/
def words (command : List Json) : Except Failure (List String) :=
  command.zipIdx.mapM fun (v, i) =>
    match v with
    | .str s => .ok s
    | v =>
      let kind := v.typeName
      .error (.wrongType s!"sequence item {i}: expected str instance, {kind} found")

/-- The text of what a program wrote, with every end of line as a single line feed. -/
def received (bytes : List UInt8) : Except Failure String :=
  match Utf8.decode bytes with
  | .ok text => .ok (String.ofList (unifyLineEnds text.toList))
  | .error fault => .error (.undecodable fault)

def parse (p : Pandoc) (markup : String) : Run Json := do
  let command := p.command
  let line := joinWith " " (← MonadExcept.ofExcept (words command))
  Run.debug logName s!"Running {line}"
  match ← (Run.launch command markup).attempt with
  | .error (.os fault) => throw (.converterNotStarted command fault)
  | .error failure => throw failure
  | .ok (code, stdout, stderr) =>
    let written ← MonadExcept.ofExcept (received stdout)
    let diagnostics ← MonadExcept.ofExcept (received stderr)
    if code != 0 then throw (.converterFailed command (strip diagnostics))
    match ← (Document.ofText written (some "pandoc output")).attempt with
    | .ok doc => return doc
    | .error failure =>
      if failure.category? = some .parsing then throw (.converterOutput command failure)
      else throw failure

def blocks (p : Pandoc) : Converter := fun markup => do
  return ((← p.parse markup).field? "blocks").getD .null

end Pandoc

end DocFilter
