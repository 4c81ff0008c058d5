import DocFilter.Command.Frame
import DocFilter.Command.Help
import DocFilter.Registry.Registry

/-!
# Listing filters

The command that shows which filters there are, or what is known of one of them, as plain lines or
drawn with frames.
-/

namespace DocFilter

namespace Command

/-- What a listing is about: one filter or all, and whether it is drawn. -/
structure Listing where
  filter : Option String
  isDrawn : Bool

def listingGrammar : Grammar Listing where
  program := "docweave list-filters"
  usage := "docweave list-filters [-h] [--rich] [filter]"
  description := "Show available filters."
  placeName := "filter"
  placeHelp := ["Show details for specific filter"]
  place v r := { r with filter := some v }
  switches :=
    [⟨["-h", "--help"], .help, "options", ["show this help message and exit"]⟩,
      ⟨["--rich"], .alone fun r => { r with isDrawn := true }, "options",
        ["Use rich terminal output"]⟩]
  epilogue := []

namespace Listing

variable {φ : Type}

/-- A list after its title, unless it is empty. -/
def labelled (title : String) (items : List String) : List String :=
  if items.isEmpty then [] else [title ++ ": " ++ joinWith ", " items]

def factLines (m : Metadata φ) : List String :=
  [s!"Description: {m.description}", s!"Version: {m.version}"] ++
    labelled "Aliases" m.aliases ++ labelled "Tags" m.tags

def heading (title : String) : List String := ["", title, repeatChar '=' 60]

def detailLines (m : Metadata φ) : List String :=
  let options := m.options.flatMap fun (name, help) => ["  " ++ name, "    " ++ help.shown]
  heading m.name ++ factLines m ++ if options.isEmpty then [] else "" :: "Options:" :: options

def drawnDetail (m : Metadata φ) : List String :=
  let rows := m.options.map fun (name, help) => [name, help.shown]
  Frame.panel s!"Filter: {m.name}" (s!"Name: {m.name}" :: factLines m) ++
    if rows.isEmpty then [] else Frame.table "Options" ["Name", "Description"] rows

def summaryLine (m : Metadata φ) : String :=
  let aliases := if m.aliases.isEmpty then "" else " (aliases: " ++ joinWith ", " m.aliases ++ ")"
  "  " ++ padRight m.name 20 ++ " " ++ m.description ++ aliases

def summaryLines (ms : List (Metadata φ)) : List String :=
  let count := ms.length
  heading "Available Filters" ++ ms.map summaryLine ++
    ["", s!"Total: {count} filters", "Use 'docweave list-filters <filter>' for details"]

def drawnSummary (ms : List (Metadata φ)) : List String :=
  let count := ms.length
  Frame.table s!"Available Filters ({count})" ["Name", "Aliases", "Description", "Tags"]
    (ms.map fun m => [m.name, joinWith ", " m.aliases, m.description, joinWith ", " m.tags])

def text (lines : List String) : String := lines.foldl (fun s line => s ++ line ++ "\n") ""

def lookUp : List String → Act (Host φ) (List (Metadata φ))
  | [] => pure []
  | name :: rest => do
    let m ← Host.metadata name
    return m :: (← lookUp rest)

/-- Shows a listing; the answer is the exit code. -/
def run (r : Listing) : Act (Host φ) Nat := do
  let names ← Host.list none
  match r.filter.filter (· ≠ "") with
  | none =>
    let ms ← lookUp names
    (Run.print (text (if r.isDrawn then drawnSummary ms else summaryLines ms)) : Run Unit)
    return 0
  | some name =>
    if ← Host.has name then
      let m ← Host.metadata name
      (Run.print (text (if r.isDrawn then drawnDetail m else detailLines m)) : Run Unit)
      return 0
    else
      let available := joinWith ", " names
      (Run.printError s!"Error: Filter '{name}' not found\nAvailable: {available}\n" : Run Unit)
      return 3

end Listing

end Command

end DocFilter
