import DocFilter.Filter
import DocFilter.Text.Base64
import DocFilter.Text.Blank

/-!
# Diagrams

A code block of class `plantuml` is rendered by a program, one launch per block. Image formats
become a picture whose address holds the bytes themselves, text formats a code block. A diagram that
cannot be rendered is shown with the reason and its source.
-/

namespace DocFilter

namespace Diagram

def logName : String := "docweave.filters.plantuml"

/-- The formats of rendered diagrams. -/
inductive Format where
  | svg
  | png
  | txt
  | utxt
  | pdf
  | eps
  | latex
deriving DecidableEq

namespace Format

def name : Format → String
  | .svg => "svg"
  | .png => "png"
  | .txt => "txt"
  | .utxt => "utxt"
  | .pdf => "pdf"
  | .eps => "eps"
  | .latex => "latex"

def all : List Format := [.svg, .png, .txt, .utxt, .pdf, .eps, .latex]

def ofName? (name : String) : Option Format := all.find? (·.name == name)

def flag (f : Format) : String := "-t" ++ f.name

def isText : Format → Bool
  | .txt | .utxt | .latex => true
  | _ => false

def mediaType : Format → String
  | .png => "image/png"
  | .pdf => "application/pdf"
  | .eps => "application/postscript"
  | _ => "image/svg+xml"

theorem ofName?_name (f : Format) : ofName? f.name = some f := by cases f <;> rfl

end Format

/-- The format that a name in any case stands for; another name stands for svg, with a warning. -/
def chooseFormat (name : Option String) : Run Format := do
  let given := match name with
    | some "" => none
    | n => n
  match Format.ofName? (lowerCase (given.getD "svg")) with
  | some f => return f
  | none =>
    let shown := name.getD "None"
    Run.warn logName s!"Unsupported PlantUML format '{shown}', using svg"
    return .svg

/-- What the program rendered, or why it did not. -/
abbrev Rendering := Except String (List UInt8)

def render (executable : Json) (format : Format) (source : String) : Run Rendering := do
  match ← (Run.launch [executable, .str "-pipe", .str format.flag] source).attempt with
  | .error (.os fault) =>
    let text := fault.message
    return .error s!"Failed to execute PlantUML: {text}"
  | .error failure => throw failure
  | .ok (code, stdout, stderr) =>
    if code = 0 then return .ok stdout
    else
      let detail := strip (Utf8.decodeLossy stderr)
      let base := s!"PlantUML exited with code {code}"
      return .error (if detail = "" then base else base ++ "\n" ++ detail)

def errorBlock (source reason : String) : Json :=
  CodeBlock.toNode
    ⟨s!"ERROR rendering PlantUML:\n{reason}\n\nOriginal code:\n{source}",
      Attr.ofClasses ["plantuml-error"]⟩

def dataAddress (format : Format) (bytes : List UInt8) : String :=
  "data:" ++ format.mediaType ++ ";base64," ++ String.ofList (Base64.encode bytes)

def outputNode (format : Format) (bytes : List UInt8) : Json :=
  if format.isText then
    CodeBlock.toNode ⟨Utf8.decodeLossy bytes, Attr.ofClasses ["plantuml-output"]⟩
  else
    let address := dataAddress format bytes
    Node.para [Node.image (.str address) (Attr.ofClasses ["plantuml"]) [] (.str "")]

/-- The program, and the format of blocks that name none. -/
structure Settings where
  executable : Json
  format : Format

namespace Settings

def replacement (s : Settings) (b : CodeBlock) : Run Json := do
  let format ← chooseFormat (some ((b.attr.given? "format").getD s.format.name))
  match ← render s.executable format b.text with
  | .ok bytes => return outputNode format bytes
  | .error reason =>
    Run.warn logName s!"PlantUML rendering failed: {reason}"
    return errorBlock b.text reason

def blockFilter (s : Settings) : BlockFilter Unit where
  name := "plantuml"
  classes := ["plantuml", "uml"]
  rewrite b := (s.replacement b : Run Json)

end Settings

end Diagram

end DocFilter
