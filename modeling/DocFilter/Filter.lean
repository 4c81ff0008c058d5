import DocFilter.Document.Walk
import DocFilter.World

/-!
# Filters

A filter makes a new document of a document. A block filter rewrites the code blocks that carry one
of its classes, each once per pass, and may keep a state between blocks. Filters are chained by
composition, and guarded so that a failure leaves the document as it was.
-/

namespace DocFilter

/-- A filter that rewrites code blocks with one of its classes, keeping a state of type `σ`. -/
structure BlockFilter (σ : Type) where
  name : String
  classes : List String
  rewrite : CodeBlock → Act σ Json

namespace BlockFilter

variable {σ : Type}

def accepts (f : BlockFilter σ) (node : Json) : Bool :=
  match CodeBlock.ofNode? node with
  | some b => b.attr.hasAnyClass f.classes
  | none => false

/-- A code block rewritten, whatever its classes; any other node is left alone. -/
def transform (f : BlockFilter σ) (node : Json) : Act σ Json :=
  match CodeBlock.ofNode? node with
  | some b => f.rewrite b
  | none => pure node

def visit (f : BlockFilter σ) (node : Json) : Act σ Json :=
  if f.accepts node then f.transform node else pure node

def sweep (f : BlockFilter σ) (doc : Json) : Act σ Json := walk f.visit doc

/-- A single node from a given state: whether it is accepted, then what visiting it gives, then what
rewriting it gives. -/
def trial (f : BlockFilter σ) (start : σ) (node : Json) : Run (Bool × Json × Json) := do
  let work : Act σ (Json × Json) := do
    let visited ← f.visit node
    return (visited, ← f.transform node)
  let (result, _) ← Act.startingAt start work
  let (visited, transformed) ← MonadExcept.ofExcept result
  return (f.accepts node, visited, transformed)

end BlockFilter

/-- A filter as the parts of a pipeline see it. It runs in a monad, so that it may keep a state
between documents. `label` is the name of a filter that is a plain function, `stages` are the names
of the filters that it was composed of, and `guarded` is the name of the filter that it guards. The
remaining fields describe how it was made: its settings, the command line of its converter, its
description, and what it does to a single node. -/
structure Filter (m : Type → Type := Run) where
  name : String
  label : Option String
  apply : Json → m Json
  stages : List String
  guarded : Option String
  settings : Fields
  command : Option (List Json)
  description : Option String
  trial : Option (Json → m (Bool × Json × Json))

namespace Filter

def logName : String := "docweave.filters.base"

def ofFunction {m : Type → Type} (name : String) (apply : Json → m Json) : Filter m :=
  ⟨name, some name, apply, [], none, [], none, none, none⟩

/-- The filter that hands every node with a property to a transformation. Without a name of its own
it takes the name of the transformation, if that has one. -/
def ofNodes (test : Json → Run Bool) (transform : Json → Run Json)
    (name transformName : Option String) : Filter :=
  let given := name.bind fun n => if n = "" then none else some n
  let name := given.getD (transformName.getD "function-filter")
  let visit (node : Json) : Run Json := do if ← test node then transform node else pure node
  { name := name, label := none, apply := walk visit, stages := [], guarded := none, settings := []
    command := none, description := some s!"FunctionFilter(name={quoted name})"
    trial := some fun node => do
      let accepted ← test node
      let visited ← visit node
      return (accepted, visited, ← transform node) }

/-- The filter that sweeps a document with a block filter whose state is of no consequence outside a
pass. -/
def ofBlocks (f : BlockFilter Unit) : Filter :=
  { name := f.name, label := none
    apply := fun doc => do MonadExcept.ofExcept (← Act.startingAt () (f.sweep doc)).1
    stages := [], guarded := none, settings := [], command := none, description := none
    trial := some (f.trial ()) }

def applying (name : String) : Log.Record :=
  ⟨.debug, logName, s!"Applying filter '{name}'", none⟩

/-- What is logged when a guarded filter fails, from the words of its failure. -/
def failed (name text : String) : Log.Record :=
  ⟨.error, logName, s!"Filter '{name}' failed, leaving document unchanged: {text}", some text⟩

section Chain
variable {m : Type → Type} [Monad m] [MonadExceptOf Failure m] [MonadLiftT Run m]

/-- A filter guarded: if it fails, the failure is logged and the document is left as it was. A
failure that cannot be put into words fails again where the record is made. -/
def guard (f : Filter m) : Filter m :=
  { Filter.ofFunction f.name fun doc =>
      tryCatch (f.apply doc) fun failure => do
        let text ← MonadExcept.ofExcept failure.held
        Run.record (failed f.name text)
        return doc with
    label := some s!"safe({f.name})"
    guarded := some f.name }

/-- A document threaded through filters, left to right. -/
def applyAll : List (Filter m) → Json → m Json
  | [], doc => pure doc
  | f :: fs, doc => do
    Run.record (applying f.name)
    applyAll fs (← f.apply doc)

def compose (fs : List (Filter m)) : Filter m :=
  let names := fs.map (·.name)
  let list := joinWith ", " names
  { Filter.ofFunction s!"compose({list})" (applyAll fs) with stages := names }

end Chain

/-- Reads a document, applies a filter and writes the result; returns what an open stream
receives. -/
def process (f : Filter) (read : Run Json) (write : Json → Run String) : Run String := do
  write (← f.apply (← read))

end Filter

end DocFilter
