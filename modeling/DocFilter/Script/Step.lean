import DocFilter.Dictionary
import DocFilter.Script.Interpreter
import DocFilter.Script.Raised

/-!
# Namespaces and steps

The namespace that a script runs on, and the steps by which it works on it.
-/

namespace DocFilter

namespace Script

/-- The names that a script can see with their values, and the lists that it has made. -/
structure Namespace where
  names : List (String × Value)
  store : Store

namespace Namespace

def empty : Namespace := ⟨[], .empty⟩

/-- A namespace with nothing in it but the name of the module. -/
def fresh : Namespace := ⟨[("__name__", .str "__docweave__")], .empty⟩

end Namespace

/-- A step of a script, which may raise an exception. -/
abbrev Step := ExceptT Raised (StateM (Machine Namespace))

namespace Step

def store : Step Store := return (← get).space.store

def setStore (st : Store) : Step Unit :=
  modify fun m => { m with space := { m.space with store := st } }

def newList (items : List Value) : Step Value := do
  let (place, st) := (← store).add items
  setStore st
  return .list place

def setItems (place : Nat) (items : List Value) : Step Unit := do
  setStore ((← store).put place items)

def lookUp? (name : String) : Step (Option Value) := return (← get).space.names.lookup name

def assign (name : String) (v : Value) : Step Unit :=
  modify fun m => { m with space := { m.space with names := Dictionary.set m.space.names name v } }

def erase (name : String) : Step Unit :=
  modify fun m => { m with space := { m.space with names := m.space.names.filter (·.1 != name) } }

def emit (isError : Bool) (text : String) : Step Unit :=
  modify fun m =>
    if isError then { m with error := m.error ++ text } else { m with output := m.output ++ text }

end Step

end Script

end DocFilter
