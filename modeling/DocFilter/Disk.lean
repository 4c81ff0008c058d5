import DocFilter.Dictionary
import DocFilter.Path
import DocFilter.Text.Quoted
import DocFilter.Text.Utf8

/-!
# The files

A tree of directories and files, and the rules by which a path leads to one of them. A path is
followed step by step, so a step can fail before a later one is looked at.
-/

namespace DocFilter

/-- Why a path leads to nothing that can be used. -/
inductive Refusal where
  | missing
  | notDirectory
  | isDirectory
  | nameTooLong
  | other (code : Nat) (text : String)
deriving DecidableEq

namespace Refusal

def code : Refusal → Nat
  | .missing => 2
  | .notDirectory => 20
  | .isDirectory => 21
  | .nameTooLong => 36
  | .other code _ => code

def text : Refusal → String
  | .missing => "No such file or directory"
  | .notDirectory => "Not a directory"
  | .isDirectory => "Is a directory"
  | .nameTooLong => "File name too long"
  | .other _ text => text

end Refusal

/-- What stands at a place of the tree. -/
inductive Entry where
  | file (content : List UInt8)
  | directory

/-- The parts of a place's absolute path, outermost first. -/
abbrev Place := List String

/-- The places that hold something. The root is a directory whether it is listed or not. -/
structure Disk where
  entries : List (Place × Entry)

namespace Disk

def find? (d : Disk) (place : Place) : Option Entry :=
  if place = [] then some .directory else d.entries.lookup place

/-- Puts an entry at a place, over what stands there. -/
def put (d : Disk) (place : Place) (e : Entry) : Disk := ⟨Dictionary.set d.entries place e⟩

/-- A place and all directories above it, as directories where nothing stands yet. -/
def makeDirectory (d : Disk) (place : Place) : Disk :=
  (List.range place.length).foldl (fun d n =>
    let above := place.take (n + 1)
    if (d.find? above).isSome then d else d.put above .directory) d

def step (d : Disk) (here : Place) (name : String) : Except Refusal Place :=
  match d.find? here with
  | none => .error .missing
  | some (.file _) => .error .notDirectory
  | some .directory =>
    if name = "" || name = "." then .ok here
    else if name = ".." then .ok here.dropLast
    else if 255 < name.utf8ByteSize then .error .nameTooLong
    else if (d.find? (here ++ [name])).isSome then .ok (here ++ [name])
    else .error .missing

def locate (d : Disk) (cwd : Place) (p : String) : Except Refusal Place :=
  if p = "" then .error .missing
  else if 4096 ≤ p.utf8ByteSize then .error .nameTooLong
  else (splitAtChar '/' p).foldlM d.step (if Path.isAbsolute p then [] else cwd)

def read (d : Disk) (cwd : Place) (p : String) : Except Refusal (List UInt8) := do
  let place ← d.locate cwd p
  match d.find? place with
  | some (.file content) => return content
  | some .directory => throw .isDirectory
  | none => throw .missing

/-- The place where a path leads or would lead if its last part were created. -/
def locateNew (d : Disk) (cwd : Place) (p : String) : Except Refusal Place :=
  match d.locate cwd p with
  | .ok place => .ok place
  | .error .missing =>
    if p = "" then .error .missing
    else do
      let names := splitAtChar '/' p
      let parent ← names.dropLast.foldlM d.step (if Path.isAbsolute p then [] else cwd)
      match d.find? parent, names.getLast? with
      | some .directory, some name => return parent ++ [name]
      | _, _ => throw .missing
  | .error refusal => .error refusal

/-- The disk after `content` has been written to a path, and the place it stands at. -/
def write (d : Disk) (cwd : Place) (p : String) (content : List UInt8) : Except Refusal Disk := do
  let place ← d.locateNew cwd p
  match d.find? place with
  | some .directory => throw .isDirectory
  | _ => return d.put place (.file content)

/-- The disk after `content` has been added to the end of the file at a path. -/
def append (d : Disk) (cwd : Place) (p : String) (content : List UInt8) : Except Refusal Disk := do
  let place ← d.locateNew cwd p
  match d.find? place with
  | some .directory => throw .isDirectory
  | some (.file old) => return d.put place (.file (old ++ content))
  | none => return d.put place (.file content)

theorem find?_put (d : Disk) (place place' : Place) (e : Entry) (h : place' ≠ []) :
    (d.put place e).find? place' = if place' == place then some e else d.find? place' := by
  simp [find?, put, h, Dictionary.lookup_set]

end Disk

end DocFilter
