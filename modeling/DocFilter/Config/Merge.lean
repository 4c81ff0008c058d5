import DocFilter.Json.Table

/-!
# Merging settings

One table of settings laid over another: a setting of the upper table wins, and tables that both
have are merged in the same way.
-/

namespace DocFilter

namespace Config

mutual

/-- A value laid over another. -/
def merge (base : Json) : Json → Json
  | .obj fields =>
    match base.entries? with
    | some old => Table.ofEntries (layFields old fields)
    | none => .obj fields
  | .table entries =>
    match base.entries? with
    | some old => Table.ofEntries (layEntries old entries)
    | none => .table entries
  | v => v

/-- Entries with fields laid over them; those that are new stand at the end. -/
def layFields (base : List (Json × Json)) : List (String × Json) → List (Json × Json)
  | [] => base
  | (key, v) :: rest =>
    let merged := match Table.get? base (.str key) with
      | some old => merge old v
      | none => v
    layFields (Table.set base (.str key) merged) rest

/-- Entries laid over others; those that are new stand at the end. -/
def layEntries (base : List (Json × Json)) : List (Json × Json) → List (Json × Json)
  | [] => base
  | (key, v) :: rest =>
    let merged := match Table.get? base key with
      | some old => merge old v
      | none => v
    layEntries (Table.set base key merged) rest

end

def mergeFields (base fields : Fields) : Fields :=
  fields.foldl (fun base (key, v) => base.set key ((base.get? key).elim v (merge · v))) base

end Config

end DocFilter
