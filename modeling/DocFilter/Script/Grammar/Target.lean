import DocFilter.Script.Grammar.Operand

/-!
# Targets

The expressions that can be assigned to or deleted.
-/

namespace DocFilter

namespace Script

namespace Grammar

variable (rules : Rules)

def ownedTarget : Reader Expression := do
  let found (part : Reader (Expression → Form)) : Reader Expression := do
    let e ← rules .owner
    let last ← part
    Reader.notAhead moreAhead
    return ⟨e.line, last e⟩
  Reader.firstOf [found member, found (indexed rules)]

def nameTarget : Reader Expression := do
  let line ← Reader.line
  return ⟨line, .name (← Reader.name)⟩

def inParentheses {α : Type} (r : Reader α) : Reader α := do
  Reader.sign "("
  let a ← r
  Reader.sign ")"
  return a

/-- Targets with commas between them, perhaps with one after them. -/
def targetItems (rule : Rule) : Reader (List Expression) := do
  let es ← Reader.separated (rules rule)
  let _ ← Reader.sign? ","
  return es

/-- A target without star: a member, a position, a name, or a group of targets. -/
def plainTarget : Reader Expression := do
  let line ← Reader.line
  let tuple : Reader Expression := do
    let es ← inParentheses (Reader.attempt severalTargets)
    return ⟨line, .tuple (es.getD [])⟩
  let list : Reader Expression := do
    Reader.sign "["
    let es ← Reader.attempt (targetItems rules .target)
    Reader.sign "]"
    return ⟨line, .list (es.getD [])⟩
  Reader.firstOf
    [ownedTarget rules, nameTarget, inParentheses (rules .plainTarget), tuple, list]
where
  /-- Targets with at least one comma. -/
  severalTargets : Reader (List Expression) := do
    let first ← rules .target
    Reader.sign ","
    return first :: ((← Reader.attempt (targetItems rules .target)).getD [])

/-- A target, perhaps with a star before it. -/
def target : Reader Expression := do
  let line ← Reader.line
  let rest : Reader Expression := do
    Reader.sign "*"
    Reader.notAhead (Reader.sign "*")
    return ⟨line, .spread (← rules .target)⟩
  Reader.firstOf [rest, rules .plainTarget]

/-- Targets of an assignment: one, or several for as many items. -/
def targets : Reader Expression := do
  let first ← rules .target
  let rest ← Reader.many do
    Reader.sign ","
    rules .target
  let ends ← Reader.sign? ","
  if rest.isEmpty && !ends then return first
  else return ⟨first.line, .tuple (first :: rest)⟩

def soleTarget : Reader Expression :=
  Reader.firstOf [ownedTarget rules, nameTarget, inParentheses (rules .soleTarget)]

def deletable : Reader Expression := do
  let line ← Reader.line
  let tuple : Reader Expression := do
    let es ← inParentheses (Reader.attempt (targetItems rules .deletable))
    return ⟨line, .tuple (es.getD [])⟩
  let list : Reader Expression := do
    Reader.sign "["
    let es ← Reader.attempt (targetItems rules .deletable)
    Reader.sign "]"
    return ⟨line, .list (es.getD [])⟩
  Reader.firstOf [ownedTarget rules, nameTarget, inParentheses (rules .deletable), tuple, list]

def targetOf (e : Expression) : Reader Target :=
  match Target.ofExpression? e with
  | some t => return t
  | none => Reader.mismatch

end Grammar

end Script

end DocFilter
