import DocFilter.Failure

/-!
# Settings of a configuration

What a configuration says about filters: the chain of filters to run, and the options of each.
-/

namespace DocFilter

namespace Config

/-- The chain of filters that a configuration names; a single name may stand for itself. -/
def filterNames (config : Json) : Except Failure (List String) :=
  match config.field? "filters" with
  | none => .ok []
  | some (.str name) => .ok [name]
  | some v =>
    match v.texts? with
    | some names => .ok names
    | none => .error (.configuration .filtersNotNames)

/-- The tables by name, each of which has to be one. A key that is no text names no filter. -/
def tablesByName : List (Json × Json) → Except Failure Fields
  | [] => .ok []
  | (key, v) :: rest =>
    if v.isObject then do
      let tables ← tablesByName rest
      return match key.text? with
        | some name => (name, v) :: tables
        | none => tables
    else .error (.configuration (.filterOptionsNotTable key.shown v.kindName))

def filterOptions (config : Json) : Except Failure Fields :=
  match config.field? "filter" with
  | none => .ok []
  | some v =>
    match v.entries? with
    | some entries => tablesByName entries
    | none => .error (.configuration .optionsNotTable)

end Config

end DocFilter
