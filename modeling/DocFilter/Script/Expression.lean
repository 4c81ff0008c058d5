import DocFilter.Script.Arithmetic

/-!
# Expressions and statements

What scripts are made of. Expressions know the line on which they start, for the sake of complaints.
-/

namespace DocFilter

namespace Script

inductive Comparison where
  | equal
  | notEqual
  | less
  | lessOrEqual
  | greater
  | greaterOrEqual
  | inside
  | notInside
  | identical
  | notIdentical
deriving DecidableEq

mutual

/-- An expression, with the line on which it starts. -/
inductive Expression where
  | mk (line : Nat) (form : Form)

/-- What an expression is made of. A spread expression stands for its items; a keyword argument
without a keyword stands for many; a naming gives its value a name. -/
inductive Form where
  | none
  | bool (b : Bool)
  | dots
  | whole (n : Nat)
  | decimal (digits : Nat) (exponent : Int)
  | text (s : String)
  | name (s : String)
  | list (items : List Expression)
  | tuple (items : List Expression)
  | spread (e : Expression)
  | member (e : Expression) (name : String)
  | index (e i : Expression)
  | call (e : Expression) (arguments : List Expression)
      (keywords : List (Option String × Expression))
  | signed (op : SignOperation) (e : Expression)
  | binary (op : Operation) (left right : Expression)
  | compare (first : Expression) (rest : List (Comparison × Expression))
  | not (e : Expression)
  | both (left right : Expression)
  | either (left right : Expression)
  | choose (condition yes no : Expression)
  | naming (name : String) (e : Expression)

end

namespace Expression

def line : Expression → Nat
  | .mk line _ => line

def form : Expression → Form
  | .mk _ form => form

end Expression

/-- What complaints call an expression. -/
def Form.description : Form → String
  | .none => "None"
  | .bool b => if b then "True" else "False"
  | .dots => "ellipsis"
  | .whole _ | .decimal .. | .text _ => "literal"
  | .name _ => "name"
  | .list _ => "list"
  | .tuple _ => "tuple"
  | .spread _ => "starred"
  | .member .. => "attribute"
  | .index .. => "subscript"
  | .call .. => "function call"
  | .compare .. => "comparison"
  | .choose .. => "conditional expression"
  | .naming .. => "named expression"
  | .signed .. | .binary .. | .not _ | .both .. | .either .. => "expression"

/-- What can be assigned to: a name, a member or position of a value, or several targets for as many
items, one of which may take as many as are left. Names and groups know their line. -/
inductive Target where
  | name (line : Nat) (s : String)
  | member (line : Nat) (e : Expression) (name : String)
  | index (e i : Expression)
  | several (line : Nat) (targets : List Target)
  | rest (line : Nat) (target : Target)

mutual

def Target.ofExpression? : Expression → Option Target
  | .mk line form => Target.ofForm? line form

def Target.ofForm? (line : Nat) : Form → Option Target
  | .name s => some (.name line s)
  | .member e part => some (.member line e part)
  | .index e i => some (.index e i)
  | .list items | .tuple items => (Target.ofEach? items).map (.several line)
  | .spread e => (Target.ofExpression? e).map (.rest line)
  | _ => none

def Target.ofEach? : List Expression → Option (List Target)
  | [] => some []
  | e :: es => do return (← Target.ofExpression? e) :: (← Target.ofEach? es)

end

mutual

/-- The first part of an expression that can be no target; `spread` says whether a spread expression
can be one. -/
def Expression.obstacle? (spread : Bool) : Expression → Option Expression
  | .mk line form => form.obstacle? spread line

def Form.obstacle? (spread : Bool) (line : Nat) : Form → Option Expression
  | .name _ | .member .. | .index .. => none
  | .list items | .tuple items => obstacleAmong? spread items
  | .spread e => if spread then e.obstacle? spread else some (.mk line (.spread e))
  | form => some (.mk line form)

def obstacleAmong? (spread : Bool) : List Expression → Option Expression
  | [] => none
  | e :: es =>
    match e.obstacle? spread with
    | some found => some found
    | none => obstacleAmong? spread es

end

/-- A module that is loaded, by the parts of its name, and the name that it is given. -/
structure Loading where
  parts : List String
  given : Option String

inductive Action where
  | pass
  | evaluate (e : Expression)
  | assign (targets : List Target) (e : Expression)
  | update (target : Target) (op : Operation) (e : Expression)
  | load (modules : List Loading)
  | take (source : List String) (members : List (String × Option String))
  | raise (e cause : Option Expression)
  | assert (e : Expression) (message : Option Expression)
  | delete (targets : List Target)
  | leave (word : String)

structure Statement where
  line : Nat
  action : Action

end Script

end DocFilter
