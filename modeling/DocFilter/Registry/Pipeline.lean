import DocFilter.Filter
import DocFilter.Json.Table
import DocFilter.Registry.Registry

/-!
# Pipelines

A chain of filters, made by name and composed. The options of a filter may be given under its name
or under the name that it is asked for by.
-/

namespace DocFilter

namespace Pipeline

def logName : String := "docweave.api"

variable {φ : Type}

/-- The options of a filter that is asked for by `name` and registered as `canonical`. A table
without options counts as none. -/
def optionsFor (options : Fields) (canonical name : String) : Except Failure Fields :=
  let given (key : String) : Option Json := (options.get? key).filter Json.isTruthy
  match (given canonical).or (given name) with
  | none => .ok []
  | some v => (Table.ofValue v).bind Table.fields

/-- The filters of a chain, each guarded if the chain is to be safe. -/
def chain (make : φ → Fields → Act (Host φ) Filter) (options : Fields) (isSafe : Bool) :
    List String → Act (Host φ) (List Filter)
  | [] => pure []
  | name :: rest => do
    let canonical ← Host.resolve name
    let given ← MonadExcept.ofExcept (optionsFor options canonical name)
    let f ← Host.create make name given
    return (if isSafe then f.guard else f) :: (← chain make options isSafe rest)

def build (make : φ → Fields → Act (Host φ) Filter) (names : List String) (options : Fields)
    (isSafe : Bool) : Act (Host φ) Filter := do
  let filters ← chain make options isSafe names
  let list := if filters.isEmpty then "(empty)" else joinWith ", " (filters.map (·.name))
  (Run.debug logName s!"Built filter pipeline: {list}" : Run Unit)
  return Filter.compose filters

def apply (make : φ → Fields → Act (Host φ) Filter) (doc : Json) (names : List String)
    (options : Fields) (isSafe : Bool) : Act (Host φ) Json := do
  let f ← build make names options isSafe
  (f.apply doc : Run Json)

end Pipeline

end DocFilter
