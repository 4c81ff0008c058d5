import DocFilter.Json.Table
import DocFilter.Script.Step
import DocFilter.Script.Expression
import DocFilter.Script.Template

/-!
# Operations on values

What the operations, comparisons and positions of scripts do with values of any kind. An operation
makes a new list; only an update in place changes one, and so all values that are that list.
-/

namespace DocFilter

namespace Script

def unsupported {α : Type} (sign : String) (a b : Value) : Step α :=
  let s := a.typeName
  let t := b.typeName
  let hint := match a with
    | .function "print" =>
      if sign = ">>" then ". Did you mean \"print(<message>, file=<output_stream>)\"?" else ""
    | _ => ""
  throw (typeFault (s!"unsupported operand type(s) for {sign}: '{s}' and '{t}'" ++ hint))

def memorySize : Nat := twoPow 32

/-- A list several times over, unless that is too much for counting or for memory. -/
def repeatList {α : Type} (items : List α) (n : Int) (tooLong : Raised) : Except Raised (List α) :=
  if n < -(twoPow 63 : Int) ∨ (twoPow 63 : Int) ≤ n then
    .error (raised "OverflowError" "cannot fit 'int' into an index-sized integer")
  else if items.isEmpty then .ok []
  else if twoPow 63 ≤ items.length * n.toNat then .error tooLong
  else if memorySize ≤ items.length * n.toNat then .error ⟨"MemoryError", [], []⟩
  else .ok (List.replicate n.toNat items).flatten

/-- What is a row of items, in the order of which it is one: a text, a list, or a tuple. -/
inductive Sequence where
  | text (s : String)
  | list (items : List Value)
  | tuple (items : List Value)

namespace Sequence

def ofValue? (st : Store) : Value → Option Sequence
  | .data (.str s) => some (.text s)
  | .data (.arr items) => some (.list (items.map .data))
  | .list place => some (.list (st.items place))
  | .tuple items => some (.tuple items)
  | _ => none

def typeName : Sequence → String
  | .text _ => "str"
  | .list _ => "list"
  | .tuple _ => "tuple"

def make : Sequence → Step Value
  | .text s => return .str s
  | .list items => Step.newList items
  | .tuple items => return .tuple items

def append? : Sequence → Sequence → Option Sequence
  | .text s, .text t => some (.text (s ++ t))
  | .list xs, .list ys => some (.list (xs ++ ys))
  | .tuple xs, .tuple ys => some (.tuple (xs ++ ys))
  | _, _ => none

def times (n : Int) : Sequence → Except Raised Sequence
  | .text s =>
    let tooLong := raised "OverflowError" "repeated string is too long"
    (repeatList s.toList n tooLong).map fun cs => .text (String.ofList cs)
  | .list items => (repeatList items n ⟨"MemoryError", [], []⟩).map .list
  | .tuple items => (repeatList items n ⟨"MemoryError", [], []⟩).map .tuple

/-- The items of a sequence, those of a text being its characters. -/
def items : Sequence → List Value
  | .text s => s.toList.map fun c => .str (String.singleton c)
  | .list items | .tuple items => items

end Sequence

def countOf (v : Value) : Except Raised Int :=
  match v.whole? with
  | some n => .ok n
  | none =>
    let t := v.typeName
    .error (typeFault s!"can't multiply sequence by non-int of type '{t}'")

/-- An operation on values of which at least one is no number. -/
def sequenceOperation (op : Operation) (sign : String) (a b : Value) : Step Value := do
  let st ← Step.store
  match op, Sequence.ofValue? st a, Sequence.ofValue? st b with
  | .add, some xs, ys =>
    match ys.bind xs.append? with
    | some zs => zs.make
    | none =>
      let s := xs.typeName
      let t := b.typeName
      throw (typeFault s!"can only concatenate {s} (not \"{t}\") to {s}")
  | .multiply, some xs, _ => (← MonadExcept.ofExcept (do xs.times (← countOf b))).make
  | .multiply, none, some ys => (← MonadExcept.ofExcept (do ys.times (← countOf a))).make
  | .remainder, some (.text s), _ => return .str (← MonadExcept.ofExcept (fillTemplate st s b))
  | _, _, _ => unsupported sign a b

def truthOperation? (op : Operation) (a b : Value) : Option Bool :=
  match op, a, b with
  | .bitAnd, .data (.bool p), .data (.bool q) => some (p && q)
  | .bitOr, .data (.bool p), .data (.bool q) => some (p || q)
  | .bitXor, .data (.bool p), .data (.bool q) => some (p != q)
  | _, _, _ => none

/-- An operation on two values; `sign` is how complaints show it. -/
def operate (op : Operation) (sign : String) (a b : Value) : Step Value :=
  match truthOperation? op a b, Number.ofValue? a, Number.ofValue? b with
  | some p, _, _ => return .bool p
  | none, some x, some y =>
    match numberOperation? op x y with
    | some result => return .data (← MonadExcept.ofExcept result)
    | none => unsupported sign a b
  | none, _, _ => sequenceOperation op sign a b

/-- An update of a value in place. A list stays the same list. -/
def update (op : Operation) (a b : Value) : Step Value := do
  let st ← Step.store
  match op, a with
  | .add, .list place =>
    match st.items? b with
    | some items =>
      Step.setItems place (st.items place ++ items)
      return a
    | none =>
      let t := b.typeName
      throw (typeFault s!"'{t}' object is not iterable")
  | .multiply, .list place =>
    let items := st.items place
    let n ← MonadExcept.ofExcept (countOf b)
    Step.setItems place (← MonadExcept.ofExcept (repeatList items n ⟨"MemoryError", [], []⟩))
    return a
  | _, _ => operate op (op.complaintSign true) a b

/-- How two numbers compare, if they do. -/
def Number.compare? : Number → Number → Option Ordering
  | .whole m, .whole n => some (compare m n)
  | .floating x, .whole n => if x.isNaN then none else some (compareTo x n)
  | .whole m, .floating y => if y.isNaN then none else some (compareTo y m).swap
  | .floating x, .floating y =>
    if x.isNaN || y.isNaN then none
    else if x.toFloat < y.toFloat then some .lt
    else if y.toFloat < x.toFloat then some .gt
    else some .eq
where
  compareTo (x : Binary64) (n : Int) : Ordering :=
    if x.isInfinite then if x.isNegative then .lt else .gt else x.compareInt n

/-- Whether two values are equal; `fuel` bounds the depth. -/
def sameFrom (st : Store) : Nat → Value → Value → Bool
  | 0, _, _ => false
  | fuel + 1, a, b =>
    let all (xs ys : List Value) : Bool :=
      xs.length == ys.length && (xs.zip ys).all fun (x, y) => sameFrom st fuel x y
    match Number.ofValue? a, Number.ofValue? b with
    | some x, some y => x.compare? y == some .eq
    | _, _ =>
      match a, b with
      | .list p, .list q => p == q || all (st.items p) (st.items q)
      | .tuple xs, .tuple ys => all xs ys
      | .type m, .type n | .function m, .function n => m == n
      | .system, .system | .dots, .dots => true
      | .write m, .write n | .stream m, .stream n => m == n
      | .data v, .data w => v.same w
      | _, _ => false

def Store.same (st : Store) (a b : Value) : Bool := sameFrom st (st.depth a + st.depth b) a b

/-- Whether a comparison by order holds for values in a given order. -/
def Comparison.holds : Comparison → Ordering → Bool
  | .less, o => o == .lt
  | .lessOrEqual, o => o != .gt
  | .greater, o => o == .gt
  | .greaterOrEqual, o => o != .lt
  | _, _ => false

def Comparison.sign : Comparison → String
  | .less => "<"
  | .lessOrEqual => "<="
  | .greater => ">"
  | _ => ">="

/-- Whether a comparison by order holds for two values; `fuel` bounds the depth. -/
def orderedFrom (st : Store) (c : Comparison) : Nat → Value → Value → Except Raised Bool
  | 0, _, _ => .ok false
  | fuel + 1, a, b =>
    let items (xs ys : List Value) : Except Raised Bool :=
      match (xs.zip ys).find? fun (x, y) => !st.same x y with
      | some (x, y) => orderedFrom st c fuel x y
      | none => .ok (c.holds (compare xs.length ys.length))
    match Number.ofValue? a, Number.ofValue? b with
    | some x, some y => .ok ((x.compare? y).any c.holds)
    | _, _ =>
      match Sequence.ofValue? st a, Sequence.ofValue? st b with
      | some (.text s), some (.text t) => .ok (c.holds (compare s t))
      | some (.list xs), some (.list ys) | some (.tuple xs), some (.tuple ys) => items xs ys
      | _, _ =>
        let sign := c.sign
        let s := a.typeName
        let t := b.typeName
        .error (typeFault s!"'{sign}' not supported between instances of '{s}' and '{t}'")

def occursIn (s : List Char) : List Char → Bool
  | [] => s.isEmpty
  | c :: cs => s.isPrefixOf (c :: cs) || occursIn s cs

/-- Whether a value is inside another: an item of it, or a part of a text. -/
def isInside (st : Store) (a b : Value) : Except Raised Bool :=
  match a, b with
  | .data (.str s), .data (.str t) => .ok (occursIn s.toList t.toList)
  | a, .data (.str _) =>
    let t := a.typeName
    .error (typeFault s!"'in <string>' requires string as left operand, not {t}")
  | a, b =>
    match st.items? b with
    | some items => .ok (items.any (st.same a))
    | none =>
      let t := b.typeName
      .error (typeFault s!"argument of type '{t}' is not iterable")

/-- Whether two values are one. Of data of a kind there is one of each value. -/
def isIdentical (st : Store) (a b : Value) : Bool :=
  match a, b with
  | .list p, .list q => p == q
  | .data v, .data w => v.kindName == w.kindName && v.same w
  | a, b => st.same a b

def compareValues (st : Store) (c : Comparison) (a b : Value) : Except Raised Bool :=
  match c with
  | .equal => .ok (st.same a b)
  | .notEqual => .ok (!st.same a b)
  | .inside => isInside st a b
  | .notInside => (isInside st a b).map (!·)
  | .identical => .ok (isIdentical st a b)
  | .notIdentical => .ok (!isIdentical st a b)
  | c => orderedFrom st c (st.depth a + st.depth b) a b

def isTruthy (st : Store) : Value → Bool
  | .data v => v.isTruthy
  | .list place => !(st.items place).isEmpty
  | .tuple items => !items.isEmpty
  | _ => true

/-- The position in a row of `length` items that a number means; a negative one counts from the
end. -/
def placeOf? (length : Nat) (i : Int) : Option Nat :=
  let i := if i < 0 then i + length else i
  if 0 ≤ i ∧ i < length then some i.toNat else none

def positionNumber (what : String) (i : Value) : Except Raised Int :=
  match i.whole? with
  | some n => .ok n
  | none =>
    let t := i.typeName
    .error <| typeFault <|
      if what = "str" then s!"string indices must be integers, not '{t}'"
      else s!"{what} indices must be integers or slices, not {t}"

def itemAt (st : Store) (v i : Value) : Except Raised Value := do
  match v, Sequence.ofValue? st v with
  | _, some s =>
    let items := s.items
    let n ← positionNumber s.typeName i
    match (placeOf? items.length n).bind (items[·]?) with
    | some item => return item
    | none =>
      let what := if s.typeName = "str" then "string" else s.typeName
      throw (raised "IndexError" s!"{what} index out of range")
  | .type name, none => throw (typeFault s!"type '{name}' is not subscriptable")
  | v, none =>
    let t := v.typeName
    throw (typeFault s!"'{t}' object is not subscriptable")

def putAt (v i item : Value) : Step Unit := do
  match v with
  | .list place =>
    let items := (← Step.store).items place
    let n ← MonadExcept.ofExcept (positionNumber "list" i)
    match placeOf? items.length n with
    | some k => Step.setItems place (items.set k item)
    | none => throw (raised "IndexError" "list assignment index out of range")
  | v =>
    let t := v.typeName
    throw (typeFault s!"'{t}' object does not support item assignment")

def removeAt (v i : Value) : Step Unit := do
  match v with
  | .list place =>
    let items := (← Step.store).items place
    let n ← MonadExcept.ofExcept (positionNumber "list" i)
    match placeOf? items.length n with
    | some k => Step.setItems place (items.eraseIdx k)
    | none => throw (raised "IndexError" "list assignment index out of range")
  | .tuple _ | .data (.str _) =>
    let t := v.typeName
    throw (typeFault s!"'{t}' object doesn't support item deletion")
  | v =>
    let t := v.typeName
    throw (typeFault s!"'{t}' object does not support item deletion")

end Script

end DocFilter
