import DocFilter.Script.Run

/-!
# Scripts in documents

The filter that runs the code blocks of a document by the interpreter.
-/

namespace DocFilter

namespace Script

def Raised.toFailure (st : Store) (r : Raised) : Failure :=
  if isOrdinary r.kind then .thrown r.kind (r.text st) else .interrupted r.kind (r.text st)

def replacement (b : CodeBlock) : Act Namespace Json := language.replacement b

def blockFilter : BlockFilter Namespace := language.blockFilter

/-- A pass over a document, whatever the namespace held before; it is left empty. -/
def pass (doc : Json) : Act Namespace Json := language.pass doc

end Script

end DocFilter
