import DocFilter.World

/-!
# Filter metadata

What is known of a filter before one is made: its names, its description, the options that it
understands, and the factory that makes it. Metadata are told apart by identity, not by content.
-/

namespace DocFilter

/-- The metadata of a filter whose factory is of type `φ`. -/
structure Metadata (φ : Type) where
  identity : Nat
  name : String
  description : String
  factory : φ
  options : Fields
  aliases : List String
  tags : List String
  version : String

def sorted (names : List String) : List String := names.mergeSort fun a b => !(decide (b < a))

namespace Failure

/-- Whether a failure is about the arguments that something was called with. -/
def isAboutArguments : Failure → Bool
  | .badValue _ | .wrongType _ | .malformedJson _ | .undecodable _ | .unencodable _ => true
  | _ => false

end Failure

namespace Metadata

def logName : String := "docweave.filters.metadata"

variable {φ : Type}

def check (m : Metadata φ) : Except Failure (Metadata φ) :=
  if m.name = "" then .error (.badValue "Filter name cannot be empty") else .ok m

def understood (m : Metadata φ) (given : Fields) : Fields :=
  given.filter fun (k, _) => Dictionary.has m.options k

/-- The names of the options given that the filter does not understand, in order. -/
def strange (m : Metadata φ) (given : Fields) : List String :=
  sorted ((given.filter fun (k, _) => !Dictionary.has m.options k).map (·.1))

/-- Makes the filter with the options that it understands; the others are ignored with a warning.
Arguments that the factory cannot use are a failure of the filter. -/
def create {σ α : Type} (make : φ → Fields → Act σ α) (m : Metadata φ) (given : Fields) :
    Act σ α := do
  let name := m.name
  let strange := m.strange given
  if !strange.isEmpty then
    let list := joinWith ", " strange
    (Run.warn logName s!"Ignoring unknown option(s) for filter '{name}': {list}" : Run Unit)
  match ← (make m.factory (m.understood given)).attempt with
  | .ok f => return f
  | .error failure =>
    if failure.isAboutArguments then throw (.filterNotMade name failure) else throw failure

end Metadata

end DocFilter
