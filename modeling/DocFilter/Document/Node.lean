import DocFilter.Json.Display

/-!
# Document nodes

A node is an object with a type tag under `t`; what it holds, if anything, stands under `c`.
Everything else in a document is data that a walk passes through. Attributes and code blocks have
views of their own, read from any value and written back in one form.
-/

namespace DocFilter

def Json.isNode : Json → Bool
  | .obj fields => Fields.has fields "t"
  | _ => false

namespace Node

def tag (v : Json) : Json := (v.field? "t").getD .null

/-- What a node holds; null if it holds nothing. -/
def content (v : Json) : Json := (v.field? "c").getD .null

/-- A node with any value as its tag, holding something or nothing. -/
def make (tag : Json) : Option Json → Json
  | none => .obj [("t", tag)]
  | some content => .obj [("t", tag), ("c", content)]

def of (tag : String) (content : Json) : Json := make (.str tag) (some content)

def bare (tag : String) : Json := make (.str tag) none

def hasTag (v : Json) (name : String) : Bool := v.isNode && (tag v).text? == some name

end Node

/-- The attributes of an element: its identifier, its classes, and key-value pairs in which a key
may stand more than once. Classes that are no text are kept as they are. -/
structure Attr where
  identifier : String
  classes : List Json
  pairs : List (String × String)

namespace Attr

def empty : Attr := ⟨"", [], []⟩

def ofClasses (names : List String) : Attr := ⟨"", names.map .str, []⟩

/-- The pair that a two-item list gives; its items are read as shown text. -/
def pairOf? : Json → Option (String × String)
  | .arr [k, v] => some (k.shown, v.shown)
  | _ => none

/-- The attributes that a value gives. Parts that are missing or malformed are empty. -/
def ofJson : Json → Attr
  | .arr items =>
    let part (i : Nat) : Json := (items[i]?).getD .null
    ⟨(part 0).text?.getD "", (part 1).items?.getD [], ((part 2).items?.getD []).filterMap pairOf?⟩
  | _ => empty

def toJson (a : Attr) : Json :=
  .arr [.str a.identifier, .arr a.classes, .arr (a.pairs.map fun (k, v) => .arr [.str k, .str v])]

def hasClass (a : Attr) (name : String) : Bool := a.classes.any (·.text? == some name)

def hasAnyClass (a : Attr) (names : List String) : Bool := names.any a.hasClass

def get? (a : Attr) (key : String) : Option String := a.pairs.lookup key

/-- The value of the first pair with a key, unless it is empty. -/
def given? (a : Attr) (key : String) : Option String :=
  match a.get? key with
  | some "" => none
  | v => v

end Attr

structure CodeBlock where
  text : String
  attr : Attr

namespace CodeBlock

/-- The code block that a value is, if it is one. A text that is none counts as empty. -/
def ofNode? (v : Json) : Option CodeBlock :=
  if Node.hasTag v "CodeBlock" then
    match Node.content v with
    | .arr [attr, text] => some ⟨text.text?.getD "", Attr.ofJson attr⟩
    | _ => none
  else none

def toNode (b : CodeBlock) : Json := Node.of "CodeBlock" (.arr [b.attr.toJson, .str b.text])

end CodeBlock

/-! ### New nodes -/

namespace Node

def codeBlock (text : Json) (attr : Attr) : Json := of "CodeBlock" (.arr [attr.toJson, text])
def rawBlock (format text : Json) : Json := of "RawBlock" (.arr [format, text])
def div (blocks : List Json) (attr : Attr) : Json := of "Div" (.arr [attr.toJson, .arr blocks])
def str (text : Json) : Json := of "Str" text
def plain (inlines : List Json) : Json := of "Plain" (.arr inlines)
def para (inlines : List Json) : Json := of "Para" (.arr inlines)

def header (level : Json) (inlines : List Json) (attr : Attr) : Json :=
  of "Header" (.arr [level, attr.toJson, .arr inlines])

def image (url : Json) (attr : Attr) (caption : List Json) (title : Json) : Json :=
  of "Image" (.arr [attr.toJson, .arr caption, .arr [url, title]])

def formatVersion : List Int := [1, 23, 1]

def document (blocks : List Json) (metadata : Json) : Json :=
  .obj [("pandoc-api-version", .arr (formatVersion.map .int)), ("meta", metadata),
    ("blocks", .arr blocks)]

end Node

end DocFilter
