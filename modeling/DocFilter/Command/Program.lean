import DocFilter.Command.FilterDocument
import DocFilter.Command.Listing

/-!
# The program

The first argument may name a command; without one, the arguments are a request to filter a
document.
-/

namespace DocFilter

namespace Command

variable {φ : Type}

/-- Writes what the reading of a command line ended with; the answer is the exit code. -/
def Stop.show_ {σ : Type} (stop : Stop) (g : Grammar σ) : Run Nat := do
  let (output, error, code) := stop.report g
  Run.print output
  Run.printError error
  return code

def listFilters (args : List String) : Act (Host φ) Nat := do
  match listingGrammar.read args ⟨none, false⟩ with
  | .ok listing => listing.run
  | .error stop => (stop.show_ listingGrammar : Run Nat)

def filterDocument (make : φ → Fields → Act (Host φ) Filter) (args : List String) :
    Act (Host φ) Nat := do
  match requestGrammar.read args .initial with
  | .ok request =>
    (Log.configure request.logThreshold request.logFile request.isTraced : Run Unit)
    request.run make
  | .error stop => (stop.show_ requestGrammar : Run Nat)

/-- Runs the program with arguments; the answer is the exit code. -/
def run (make : φ → Fields → Act (Host φ) Filter) (args : List String) : Act (Host φ) Nat :=
  match args with
  | "list-filters" :: rest | "filters" :: rest => listFilters rest
  | "filter" :: rest => filterDocument make rest
  | _ => filterDocument make args

end Command

end DocFilter
