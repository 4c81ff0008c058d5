import DocFilter.Text.Digits
import DocFilter.Text.Lines
import DocFilter.Text.Quoted

/-!
# Arguments of a command line

The rules by which arguments set what a command is told. Options may stand anywhere before a double
dash, long ones may be abbreviated, and one-letter ones may be written together. One argument that
is no option has a place of its own; all others that are left over are refused together at the end.
-/

namespace DocFilter

namespace Command

/-- What an option does: it changes the settings, alone or with a value that it may refuse, or it
ends the reading with the help or another text. -/
inductive Effect (σ : Type) where
  | alone (change : σ → σ)
  | valued (placeholder : String) (change : String → σ → Except String σ)
  | help
  | answer (text : String)

/-- An option under one or more names, the group that the help shows it in, and the lines of its
help. A name with a single dash has one letter. -/
structure Switch (σ : Type) where
  names : List String
  effect : Effect σ
  group : String
  help : List String

/-- What a command line may hold: the options in the order in which they are looked for, and the
argument that is no option. The other fields are what usage and help say. -/
structure Grammar (σ : Type) where
  program : String
  usage : String
  description : String
  placeName : String
  placeHelp : List String
  place : String → σ → σ
  switches : List (Switch σ)
  epilogue : List String

/-- Why reading ends without settings: a text was asked for, or the arguments break the rules. -/
inductive Stop where
  | help
  | answer (text : String)
  | misuse (message : String)
deriving DecidableEq

/-- What an argument before the double dash is taken for; a known option may have a text attached
to its name. -/
inductive Word (σ : Type) where
  | plain
  | known (s : Switch σ) (isShort : Bool) (attached : Option (List Char))
  | strange

variable {σ : Type}

namespace Switch

def title (s : Switch σ) : String := joinWith "/" s.names

def misuse (s : Switch σ) (message : String) : Stop :=
  .misuse ("argument " ++ s.title ++ ": " ++ message)

def takesValue (s : Switch σ) : Bool :=
  match s.effect with
  | .valued .. => true
  | _ => false

def apply (s : Switch σ) (settings : σ) : Except Stop σ :=
  match s.effect with
  | .alone change => .ok (change settings)
  | .valued .. => .error (s.misuse "expected one argument")
  | .help => .error .help
  | .answer text => .error (.answer text)

def applyTo (s : Switch σ) (v : String) (settings : σ) : Except Stop σ :=
  match s.effect with
  | .valued _ change => (change v settings).mapError s.misuse
  | _ => s.apply settings

end Switch

/-- Whether a text is written as a negative number; the end of a line may follow it. -/
def isNegativeNumber (arg : String) : Bool :=
  let isDigit (c : Char) : Bool := (digitValue? c).isSome
  let isEnd (cs : List Char) : Bool := cs = [] || cs = ['\n']
  match arg.toList with
  | '-' :: cs =>
    match cs.dropWhile isDigit with
    | '.' :: ds => ds.head?.any isDigit && isEnd (ds.dropWhile isDigit)
    | rest => cs.head?.any isDigit && isEnd rest
  | _ => false

/-- A text before and after its first equals sign, if it has one. -/
def splitEquals (arg : String) : String × Option (List Char) :=
  let name := arg.toList.takeWhile (· ≠ '=')
  match arg.toList.drop name.length with
  | [] => (arg, none)
  | _ :: rest => (String.ofList name, some rest)

namespace Grammar

def find? (g : Grammar σ) (name : String) : Option (Switch σ) :=
  g.switches.find? (·.names.contains name)

/-- The options with a long name that starts with a text, once for each such name. -/
def abbreviated (g : Grammar σ) (start : String) : List (Switch σ × String) :=
  g.switches.flatMap fun s => (s.names.filter (·.startsWith start)).map (s, ·)

def classify (g : Grammar σ) (arg : String) : Except Stop (Word σ) :=
  let unknown : Word σ :=
    if isNegativeNumber arg || arg.toList.contains ' ' then .plain else .strange
  match arg.toList with
  | '-' :: second :: rest =>
    let (name, attached) := splitEquals arg
    match g.find? arg, g.find? name with
    | some s, _ => .ok (.known s (second != '-') none)
    | none, some s => .ok (.known s (second != '-') attached)
    | none, none =>
      if second = '-' then
        match g.abbreviated name with
        | [] => .ok unknown
        | [(s, _)] => .ok (.known s false attached)
        | found =>
          let list := joinWith ", " (found.map (·.2))
          .error (.misuse s!"ambiguous option: {arg} could match {list}")
      else match g.find? (String.ofList ['-', second]) with
        | some s => .ok (.known s true (some rest))
        | none => .ok unknown
  | _ => .ok .plain

/-- How a word that names options ends: with a value, or with an option that may need a value. -/
inductive Ending (σ : Type) where
  | valued (s : Switch σ) (v : String)
  | opened (s : Switch σ)

/-- The options that a word names before its last, and how it ends. After a one-letter option
without a value the attached text names further options. -/
def unfold (g : Grammar σ) (s : Switch σ) (isShort : Bool) (text : List Char) :
    Except Stop (List (Switch σ) × Ending σ) :=
  if s.takesValue then .ok ([], .valued s (String.ofList text))
  else
    let ignored := s.misuse ("ignored explicit argument " ++ quoted (String.ofList text))
    match text with
    | [] => .error ignored
    | c :: rest =>
      match if isShort then g.find? (String.ofList ['-', c]) else none with
      | none => .error ignored
      | some next =>
        if rest.isEmpty then .ok ([s], .opened next)
        else do
          let (more, ending) ← unfold g next true rest
          return (s :: more, ending)

/-- Reading under way: the settings so far, whether the argument that is no option has been found
and whether it was the last thing read, and what is left over. -/
structure Reading (σ : Type) where
  settings : σ
  hasPlace : Bool
  isAtPlace : Bool
  extras : List String

/-- A text that names no option takes the place for it, or is left over. -/
def Reading.plain (g : Grammar σ) (arg : String) (r : Reading σ) : Reading σ :=
  if r.hasPlace then { r with extras := r.extras ++ [arg], isAtPlace := false }
  else { r with settings := g.place arg r.settings, hasPlace := true, isAtPlace := true }

/-- Settings changed by options in turn, and then in one more way. -/
def Reading.change (r : Reading σ) (before : List (Switch σ)) (last : σ → Except Stop σ) :
    Except Stop (Reading σ) := do
  let settings ← before.foldlM (fun settings s => s.apply settings) r.settings
  return { r with settings := ← last settings, isAtPlace := false }

/-- Reads the words before a double dash. -/
def readWords (g : Grammar σ) : List (String × Word σ) → Reading σ → Except Stop (Reading σ)
  | [], r => .ok r
  | (arg, .plain) :: rest, r => readWords g rest (r.plain g arg)
  | (arg, .strange) :: rest, r =>
    readWords g rest { r with extras := r.extras ++ [arg], isAtPlace := false }
  | (_, .known s isShort attached) :: rest, r => do
    let (before, ending) ← match attached with
      | none => pure ([], Ending.opened s)
      | some text => unfold g s isShort text
    match ending with
    | .valued s v => readWords g rest (← r.change before (s.applyTo v))
    | .opened s =>
      if s.takesValue then
        match rest with
        | (v, .plain) :: rest => readWords g rest (← r.change before (s.applyTo v))
        | _ => throw (s.misuse "expected one argument")
      else readWords g rest (← r.change before s.apply)

/-- Reads what follows a double dash, none of which is an option. -/
def readPlain (g : Grammar σ) (args : List String) (r : Reading σ) : Reading σ :=
  if r.hasPlace then
    { r with extras := r.extras ++ (if r.isAtPlace then args else "--" :: args) }
  else args.foldl (fun r arg => r.plain g arg) r

def read (g : Grammar σ) (args : List String) (initial : σ) : Except Stop σ := do
  let before := args.takeWhile (· ≠ "--")
  let words ← before.mapM fun arg => do return (arg, ← g.classify arg)
  let r ← readWords g words ⟨initial, false, false, []⟩
  let r := match args.drop before.length with
    | [] => r
    | _ :: after => readPlain g after r
  if r.extras.isEmpty then return r.settings
  else throw (.misuse ("unrecognized arguments: " ++ joinWith " " r.extras))

end Grammar

end Command

end DocFilter
