import DocFilter.Text.Lines

/-!
# Paths

File references as text: their steps between slashes, joining, and the collapse of a reference to
an absolute one without `.` and `..`, all without looking at any file.
-/

namespace DocFilter

namespace Path

def isAbsolute (p : String) : Bool := p.toList.head? == some '/'

/-- The parts of a path between slashes, without the empty ones and `.`. -/
def steps (p : String) : List String :=
  (splitAtChar '/' p).filter fun s => s != "" && s != "."

/-- The root that a path starts from: none, a slash, or exactly two slashes. -/
def root (p : String) : String :=
  match p.toList with
  | '/' :: '/' :: '/' :: _ => "/"
  | '/' :: '/' :: _ => "//"
  | '/' :: _ => "/"
  | _ => ""

/-- One step from a position, which is given innermost first. From the top of an absolute path `..`
leads nowhere; from the start of a relative one it is kept. -/
def follow (absolute : Bool) (position : List String) (step : String) : List String :=
  if step = ".." then
    match position with
    | [] => if absolute then [] else [".."]
    | last :: rest => if last = ".." then ".." :: last :: rest else rest
  else step :: position

/-- Where the steps lead from a position given innermost first; the result has its outermost part
first. -/
def evaluate (absolute : Bool) (position steps : List String) : List String :=
  (steps.foldl (follow absolute) position).reverse

/-- A root and the parts under it as a path; the empty path is `.`. -/
def spell (root : String) (parts : List String) : String :=
  let p := root ++ joinWith "/" parts
  if p = "" then "." else p

/-- A path with empty parts, `.` and `..` resolved without looking at files. -/
def normalize (p : String) : String :=
  spell (root p) (evaluate (isAbsolute p) [] (steps p))

/-- A path with empty parts and `.` removed, and `..` kept. -/
def tidy (p : String) : String := spell (root p) (steps p)

/-- `p` as seen from `base`: `p` itself if it is absolute. -/
def join (base p : String) : String :=
  if isAbsolute p then p
  else if base = "" || base.toList.getLast? == some '/' then base ++ p
  else base ++ "/" ++ p

/-- A path made absolute from the directory `cwd`. -/
def absolute (cwd p : String) : String := normalize (join cwd p)

/-- A path made absolute from the directory `cwd`, with a single slash at its start. -/
def real (cwd p : String) : String := spell "/" (steps (absolute cwd p))

/-- Everything before the last part, without the slashes that end it. -/
def directory (p : String) : String :=
  let head := (p.toList.reverse.dropWhile (· ≠ '/'))
  if head.all (· = '/') then String.ofList head.reverse
  else String.ofList (head.dropWhile (· = '/')).reverse

/-- `p`, seen from `base` if it is relative, as an absolute path; an empty base is the directory
`cwd`. -/
def resolve (cwd p : String) (base : Option String) : String :=
  if isAbsolute p then normalize p
  else
    let base := match base with
      | some b => if b = "" then "." else b
      | none => "."
    normalize (join (absolute cwd base) p)

def fileName (p : String) : String := (steps p).getLast?.getD ""

/-- A name from its last dot on, unless the dot starts or ends the name. -/
def suffix (name : String) : String :=
  let tail := name.toList.reverse.takeWhile (· ≠ '.')
  let before := name.length - tail.length
  if before ≤ 1 || tail.isEmpty then "" else String.ofList ('.' :: tail.reverse)

end Path

end DocFilter
