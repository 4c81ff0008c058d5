import DocFilter.Registry.Metadata

/-!
# The registry of filters

Filters by name and alias. The built-in filters are registered, and plugins looked for, when the
registry is first asked for something; registering and unregistering do not wait for that.
-/

namespace DocFilter

/-- The registered filters by name, the names that aliases stand for, and whether the built-in
filters have been registered. -/
structure Registry (φ : Type) where
  filters : List (String × Metadata φ)
  aliases : List (String × String)
  initialized : Bool

/-- What loading a plugin gives: metadata, something else, or a failure. -/
inductive Loaded (φ : Type) where
  | metadata (m : Metadata φ)
  | other
  | broken (failure : Failure.Worded)

/-- The plugins that can be found by name, or the failure to look for them. -/
abbrev Plugins (φ : Type) := Except Failure.Worded (List (String × Loaded φ))

namespace Registry

def logName : String := "docweave.filters.registry"

variable {φ : Type}

def empty : Registry φ := ⟨[], [], false⟩

/-- The name that a name or alias stands for; any other stands for itself. -/
def canonical (r : Registry φ) (name : String) : String := (r.aliases.lookup name).getD name

def insert (r : Registry φ) (m : Metadata φ) : Registry φ :=
  { r with
    filters := Dictionary.set r.filters m.name m
    aliases := m.aliases.foldl (fun as a => Dictionary.set as a m.name) r.aliases }

/-- The registry without a filter and its aliases, if there is a filter of that name or alias. -/
def remove? (r : Registry φ) (name : String) : Option (Registry φ) :=
  let name := r.canonical name
  (r.filters.lookup name).map fun m =>
    { r with
      filters := Dictionary.erase r.filters name
      aliases := m.aliases.foldl Dictionary.erase r.aliases }

def find? (r : Registry φ) (name : String) : Option (Metadata φ) :=
  r.filters.lookup (r.canonical name)

/-- The names of the filters with one of the tags, or of all filters, in order. -/
def names (r : Registry φ) (tags : Option (List String)) : List String :=
  match tags with
  | none => sorted (Dictionary.keys r.filters)
  | some ts => sorted (Dictionary.keys (r.filters.filter fun (_, m) => ts.any m.tags.contains))

end Registry

/-- A registry in use: the filters built into it, the plugins that can be found, and its state. -/
structure Host (φ : Type) where
  builtins : List (Metadata φ)
  plugins : Plugins φ
  registry : Registry φ

namespace Host

open Registry (logName)

variable {φ : Type}

def changeRegistry (f : Registry φ → Registry φ) : Act (Host φ) Unit := do
  let h ← Act.getState
  Act.setState { h with registry := f h.registry }

/-- Registers a filter, over one of the same name with a warning. -/
def register (m : Metadata φ) : Act (Host φ) Unit := do
  let r := (← Act.getState).registry
  let name := m.name
  if Dictionary.has r.filters name then
    (Run.warn logName s!"Filter '{name}' already registered, overwriting" : Run Unit)
  changeRegistry (·.insert m)
  (Run.debug logName s!"Registered filter: {name}" : Run Unit)

/-- Unregisters a filter and says whether there was one. -/
def unregister (name : String) : Act (Host φ) Bool := do
  let r := (← Act.getState).registry
  match r.remove? name with
  | none => return false
  | some rest =>
    changeRegistry fun _ => rest
    let canonical := r.canonical name
    (Run.debug logName s!"Unregistered filter: {canonical}" : Run Unit)
    return true

/-- Registers what a plugin loads to, and says whether anything was registered. Metadata that are
registered already are left alone. -/
def takeUp (name : String) (loaded : Loaded φ) : Act (Host φ) Bool := do
  match loaded with
  | .broken failure =>
    let text := failure.words
    (Run.warn logName s!"Failed to load filter entry point '{name}': {text}" : Run Unit)
    return false
  | .other =>
    (Run.warn logName s!"Entry point '{name}' did not return FilterMetadata, skipping" : Run Unit)
    return false
  | .metadata m =>
    let known := ((← Act.getState).registry.filters.lookup m.name).map (·.identity)
    if known = some m.identity then return false
    register m
    (Run.debug logName s!"Discovered filter from entry point: {name}" : Run Unit)
    return true

/-- Registers the plugins of a list and counts the registrations. -/
def takeUpAll : List (String × Loaded φ) → Act (Host φ) Nat
  | [] => pure 0
  | (name, loaded) :: rest => do
    let isNew ← takeUp name loaded
    let count ← takeUpAll rest
    return if isNew then count + 1 else count

/-- Looks for plugins, registers them, and counts the registrations. -/
def discover : Act (Host φ) Nat := do
  match (← Act.getState).plugins with
  | .error failure =>
    let text := failure.words
    (Run.warn logName s!"Failed to discover filter plugins: {text}" : Run Unit)
    return 0
  | .ok plugins =>
    let count ← takeUpAll plugins
    (Run.debug logName s!"Discovered {count} filter(s) from entry points" : Run Unit)
    return count

/-- Registers those of a list of built-in filters whose names are free. -/
def registerFree : List (Metadata φ) → Act (Host φ) Unit
  | [] => pure ()
  | m :: rest => do
    if !Dictionary.has (← Act.getState).registry.filters m.name then register m
    registerFree rest

/-- Registers the built-in filters and the plugins unless that has been done. -/
def ensureReady : Act (Host φ) Unit := do
  let h ← Act.getState
  if !h.registry.initialized then
    changeRegistry fun r => { r with initialized := true }
    registerFree h.builtins
    let _ ← discover

def ready : Act (Host φ) (Registry φ) := do
  ensureReady
  return (← Act.getState).registry

def resolve (name : String) : Act (Host φ) String := return (← ready).canonical name

def has (name : String) : Act (Host φ) Bool := return ((← ready).find? name).isSome

/-- The names of the filters with one of the tags, or of all filters. -/
def list (tags : Option (List String)) : Act (Host φ) (List String) :=
  return (← ready).names tags

def metadata (name : String) : Act (Host φ) (Metadata φ) := do
  let r ← ready
  match r.find? name with
  | some m => return m
  | none => throw (.unknownFilter name (r.names none))

/-- Forgets all filters; the built-in ones are registered again when next asked for. -/
def clear : Act (Host φ) Unit := do
  changeRegistry fun _ => Registry.empty
  (Run.debug logName "Cleared filter registry" : Run Unit)

/-- Refuses options that have the names of the other arguments that a filter is made with. -/
def checkNames (maker : String) (taken : List String) (options : Fields) : Except Failure Unit :=
  match taken.find? (Dictionary.has options) with
  | some name => .error (.wrongType s!"{maker} got multiple values for argument '{name}'")
  | none => .ok ()

def create {α : Type} (make : φ → Fields → Act (Host φ) α) (name : String) (options : Fields) :
    Act (Host φ) α := do
  MonadExcept.ofExcept
    (checkNames "FilterRegistry.get_filter()" ["self", "name"] options)
  (← metadata name).create make options

end Host

end DocFilter
