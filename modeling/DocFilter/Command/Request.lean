import DocFilter.Command.Arguments
import DocFilter.Decimal.Reading
import DocFilter.Failure

/-!
# Requests

What a command line asks the program to do to a document, and the options by which it does so.
-/

namespace DocFilter

namespace Command

structure Request where
  targetFormat : Option String
  filters : List String
  isSafe : Bool
  input : String
  output : String
  isPretty : Bool
  maxDepth : Option Int
  baseDir : Option String
  source : Option String
  pandoc : Option String
  configPath : Option String
  isConfigured : Bool
  isVerbose : Bool
  logLevel : String
  logFile : Option String
  isTraced : Bool

namespace Request

/-- The request of an empty command line: standard streams, and warnings on the error stream. -/
def initial : Request where
  targetFormat := none
  filters := []
  isSafe := true
  input := "-"
  output := "-"
  isPretty := false
  maxDepth := none
  baseDir := none
  source := none
  pandoc := none
  configPath := none
  isConfigured := true
  isVerbose := false
  logLevel := "WARNING"
  logFile := none
  isTraced := false

end Request

/-- The whole number, not below zero, that a text writes. -/
def count (text : String) : Except ConfigProblem Int :=
  match wholeNumber? 10 text with
  | none => .error (.notInteger text)
  | some n => if n < 0 then .error (.negative n) else .ok n

def levelNames : List String := ["DEBUG", "INFO", "WARNING", "ERROR"]

def textual (change : String → Request → Request) (v : String) (r : Request) :
    Except String Request :=
  .ok (change v r)

/-- The options of a request in the order in which they are looked for. -/
def requestSwitches : List (Switch Request) :=
  [⟨["-h", "--help"], .help, "options", ["show this help message and exit"]⟩,
    ⟨["-t", "--filter"], .valued "NAME" (textual fun v r => { r with filters := r.filters ++ [v] }),
      "Filter selection",
      ["Filter to apply (repeatable, applied in the order",
        "given). Defaults to the 'filters' list from the",
        "configuration file."]⟩,
    ⟨["--no-safe"], .alone fun r => { r with isSafe := false }, "Filter selection",
      ["Let a failing filter abort the run instead of logging",
        "the error and leaving the document unchanged"]⟩,
    ⟨["-i", "--input"], .valued "PATH" (textual fun v r => { r with input := v }),
      "Input and output", ["Input AST file (default: stdin)"]⟩,
    ⟨["-o", "--output"], .valued "PATH" (textual fun v r => { r with output := v }),
      "Input and output", ["Output AST file (default: stdout)"]⟩,
    ⟨["--pretty"], .alone fun r => { r with isPretty := true }, "Input and output",
      ["Indent the output JSON"]⟩,
    ⟨["--max-depth"],
      .valued "N" fun v r =>
        match count v with
        | .ok n => .ok { r with maxDepth := some n }
        | .error problem => .error problem.message,
      "Include options", ["Maximum include nesting that is expanded (default: 10)"]⟩,
    ⟨["--base-dir"], .valued "DIR" (textual fun v r => { r with baseDir := some v }),
      "Include options", ["Directory top-level relative includes resolve against"]⟩,
    ⟨["--source"], .valued "FILE" (textual fun v r => { r with source := some v }),
      "Include options",
      ["Path of the document being filtered; used for relative",
        "includes and self-include detection"]⟩,
    ⟨["--pandoc"], .valued "EXE" (textual fun v r => { r with pandoc := some v }),
      "Include options", ["Pandoc executable used to parse included files"]⟩,
    ⟨["--config"], .valued "CONFIG" (textual fun v r => { r with configPath := some v }),
      "Configuration",
      ["Path to configuration file (TOML, YAML or JSON). If",
        "not specified, searches for",
        ".docweave.toml/.yaml/.yml/.json or [tool.docweave] in",
        "pyproject.toml from the current directory upwards,",
        "then in the home directory."]⟩,
    ⟨["--no-config"], .alone fun r => { r with isConfigured := false }, "Configuration",
      ["Disable loading of configuration files. Ignores auto-",
        "discovered configs, the DOCWEAVE_CONFIG environment",
        "variable, and any --config flag."]⟩,
    ⟨["--verbose", "-v"], .alone fun r => { r with isVerbose := true }, "Logging",
      ["Enable verbose output with detailed logging",
        "(equivalent to --log-level DEBUG)"]⟩,
    ⟨["--log-level"],
      .valued ("\x7b" ++ joinWith "," levelNames ++ "\x7d") fun v r =>
        if levelNames.contains v then .ok { r with logLevel := v }
        else
          let choices := joinWith ", " (levelNames.map quoted)
          .error ("invalid choice: " ++ quoted v ++ " (choose from " ++ choices ++ ")"),
      "Logging",
      ["Set logging level for debugging (default: WARNING).",
        "Overrides --verbose if both are specified."]⟩,
    ⟨["--log-file"], .valued "PATH" (textual fun v r => { r with logFile := some v }), "Logging",
      ["Write log messages to specified file in addition to", "stderr"]⟩,
    ⟨["--trace"], .alone fun r => { r with isTraced := true }, "Logging",
      ["Enable trace mode with timestamps and logger names"]⟩,
    ⟨["--version", "-V"], .answer "docweave 0.1.0", "options",
      ["show program's version number and exit"]⟩]

def requestGrammar : Grammar Request where
  program := "docweave"
  usage := "docweave [filter] [-h] [-t NAME] [-i INPUT] [-o OUTPUT] [OPTIONS] [target_format]"
  description := "Apply filters to a Pandoc JSON AST"
  placeName := "target_format"
  placeHelp :=
    ["Output format passed by pandoc when run with --filter", "(informational only)"]
  place v r := { r with targetFormat := some v }
  switches := requestSwitches
  epilogue :=
    ["Examples:",
      "  # Expand includes, then run python blocks",
      "  pandoc doc.md -t json | docweave filter -t include -t python-exec " ++
        "| pandoc -f json -o doc.html",
      "",
      "  # Use as a pandoc filter (filters come from .docweave.toml)",
      "  pandoc doc.md --filter docweave -o doc.html",
      "",
      "  # Read and write files instead of stdin/stdout",
      "  docweave filter -t include -i doc.json -o out.json --max-depth 3",
      "",
      "Other commands:",
      "  docweave list-filters [NAME] [--rich]   Show available filters"]

end Command

end DocFilter
