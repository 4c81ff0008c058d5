import DocFilter.Document.Node
import DocFilter.Json.Table

/-!
# Walking a document

A walk rebuilds a value and hands each node to an action once, children before parents. What the
action returns is not walked again. A node that the action answers with null is dropped from the
list that holds it, and leaves a null where a field holds it.
-/

namespace DocFilter

variable {m : Type → Type} [Monad m]

mutual

/-- A value with each of its nodes replaced by what the action returns for it. -/
def walk (action : Json → m Json) : Json → m Json
  | .arr items => do return .arr (← walkItems action items)
  | .obj fields => do
    let rebuilt ← walkFields action fields
    if (Json.obj rebuilt).isNode then action (.obj rebuilt) else return .obj rebuilt
  | v => pure v

/-- The items of a list, without the nodes that were answered with null. -/
def walkItems (action : Json → m Json) : List Json → m (List Json)
  | [] => pure []
  | v :: vs => do
    let w ← walk action v
    let ws ← walkItems action vs
    return if w.isNull && v.isNode then ws else w :: ws

def walkFields (action : Json → m Json) : List (String × Json) → m (List (String × Json))
  | [] => pure []
  | (k, v) :: fs => do
    let w ← walk action v
    return (k, w) :: (← walkFields action fs)

end

mutual

/-- The nodes of a value, children before parents. -/
def nodes : Json → List Json
  | .arr items => nodesOfItems items
  | .obj fields =>
    nodesOfFields fields ++ if (Json.obj fields).isNode then [.obj fields] else []
  | _ => []

def nodesOfItems : List Json → List Json
  | [] => []
  | v :: vs => nodes v ++ nodesOfItems vs

def nodesOfFields : List (String × Json) → List Json
  | [] => []
  | (_, v) :: fs => nodes v ++ nodesOfFields fs

end

/-- The nodes of a value of a given type, if one is given, that satisfy a test. The test is asked
only about nodes of the type. -/
def filterNodes (type : Option Json) (test : Json → m Bool) (v : Json) : m (List Json) :=
  (nodes v).filterM fun n =>
    match type with
    | some t => if (Node.tag n).same t then test n else pure false
    | none => test n

end DocFilter
