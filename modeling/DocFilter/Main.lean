import DocFilter.Command.Program
import DocFilter.Registry.Builtin
import Std.Time.Format

/-!
# The command line

The program itself. A run sees the files under the working directory, the paths among its arguments,
and the configuration files above the working directory and at home, all as they were when it began;
what it changed is written back when it ends. No other program is launched: each launch is answered
as if that program were missing.
-/

namespace DocFilter

namespace Outside

def greatestDepth : Nat := 12

/-- What stands at an absolute path and under it, as far as it can be read. -/
def entriesAt (path : String) : Nat → IO (List (Place × Entry))
  | 0 => return []
  | depth + 1 => do
    try
      let place := (← IO.currentDir) / path
      if ← place.isDir then
        let mut found := [(Path.steps path, Entry.directory)]
        for entry in ← place.readDir do
          found := found ++ (← entriesAt (Path.join path entry.fileName) depth)
        return found
      else if ← place.pathExists then
        return [(Path.steps path, .file (← IO.FS.readBinFile place).toList)]
      else return []
    catch _ => return []

/-- The paths at which a run may look for files outside the working directory. -/
def pathsBeyond (cwd home : String) (args : List String) : List String :=
  let directories := home :: Config.withParents cwd
  let configuration := directories.flatMap fun directory =>
    ("pyproject.toml" :: Config.dedicatedNames).map (Path.join directory)
  let named := args.flatMap fun arg => [arg, ((splitAtChar '=' arg).getLast?).getD ""]
  configuration ++ (named.filter (· ≠ "")).map (Path.absolute cwd)

def disk (cwd home : String) (args : List String) : IO Disk := do
  let mut found ← entriesAt cwd greatestDepth
  for path in pathsBeyond cwd home args do
    found := found ++ (← entriesAt path greatestDepth)
  return found.foldl (fun d (place, e) => (d.makeDirectory place.dropLast).put place e) ⟨[]⟩

/-- The standard input, if a run with the given arguments reads it. -/
def input (args : List String) : IO String := do
  let args := if args.head? = some "filter" then args.drop 1 else args
  match Command.requestGrammar.read args .initial with
  | .ok request => if request.input = "-" then (← IO.getStdin).readToEnd else return ""
  | .error _ => return ""

def environment : IO (List (String × String)) := do
  let given ← ["HOME", "DOCWEAVE_CONFIG"].mapM fun name => do
    return (← IO.getEnv name).map (name, ·)
  return given.filterMap id

def save (before after : Disk) : IO Unit := do
  for (place, entry) in after.entries do
    match entry, before.find? place with
    | .file new, some (.file old) => if new != old then write place new
    | .file new, _ => write place new
    | .directory, _ => pure ()
where
  write (place : Place) (bytes : List UInt8) : IO Unit :=
    IO.FS.writeBinFile (Path.spell "/" place) ⟨bytes.toArray⟩

end Outside

end DocFilter

open DocFilter in
def main (args : List String) : IO UInt32 := do
  let cwd := (← IO.currentDir).toString
  let environment ← Outside.environment
  let home := (environment.lookup "HOME").getD "/"
  let disk ← Outside.disk cwd home args
  let world : World :=
    { World.initial disk cwd with
      environment := environment
      stdin := ← Outside.input args
      clock := (← Std.Time.PlainDateTime.now).format "uuuu-MM-dd HH:mm:ss" }
  let host : Host Builtin := ⟨Builtin.all.map (Builtin.metadata id), .ok [], .empty⟩
  let make (b : Builtin) (options : Fields) : Act (Host Builtin) Filter :=
    (b.make options : Run Filter)
  let ((result, _), world) := (Command.run make args).run host world
  Outside.save disk world.disk
  IO.print world.stdout
  IO.eprint world.stderr
  match result with
  | .ok code => return UInt32.ofNat code
  | .error failure =>
    IO.eprintln failure.message
    return 1
