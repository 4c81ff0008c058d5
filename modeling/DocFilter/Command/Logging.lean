import DocFilter.Json.Printer
import DocFilter.World

/-!
# Where records go

Log records go to the error stream, because the standard output carries the document, and on request
to a file as well.
-/

namespace DocFilter

namespace Log

/-- The level that a value names: a whole number is a level itself, and a text that names none
stands for the level of information. The names of the format of records and of the styles of formats
are taken, and refused as levels. -/
def thresholdOf (v : Json) : Except Failure Int :=
  match v.asInt? with
  | some n => .ok n
  | none =>
    match upperAscii v.shown with
    | "BASIC_FORMAT" => .error (.badValue "Unknown level: '%(levelname)s:%(name)s:%(message)s'")
    | "_STYLES" => .error (.wrongType "Level not an integer or a valid string")
    | name => .ok ((levelNumber? name).getD Level.info.number)

/-- Records from a level on are written from now on, on the error stream and to a file if one is
given. A file that cannot be opened is reported and left out. -/
def configure (level : Int) (file : Option String) (isTraced : Bool) : Run Unit := do
  let style := if isTraced then .timed else .labelled
  modify fun w => { w with setup := ⟨level, style, none⟩ }
  match file.filter (· ≠ "") with
  | none => return ()
  | some name =>
    let path := Path.absolute (← get).cwd name
    Run.checkPath path
    let w ← get
    match w.disk.append [] path [] with
    | .ok disk =>
      set { w with disk := disk, setup := ⟨level, style, some path⟩ }
      Run.info "root" s!"Logging to file: {name}"
    | .error refusal =>
      let text := OsFault.message ⟨refusal, some (quoted path)⟩
      Run.warn "root" s!"Could not create log file {name}: {text}"

/-- Logs a value under a label, if records of that level are written. -/
def dump (v : Json) (label : String) : Run Unit := do
  if (← get).setup.threshold ≤ (Level.debug.number : Int) then
    let text := v.render (some 2)
    Run.debug "docweave.logging_utils" s!"{label}:\n{text}"

end Log

end DocFilter
