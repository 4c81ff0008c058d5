import DocFilter.Script.Raised

/-!
# Arithmetic of scripts

The operations on whole and floating numbers. Whole numbers have no bound; a quotient rounds down,
and a remainder has the sign of the divisor.
-/

namespace DocFilter

namespace Script

inductive Operation where
  | add
  | subtract
  | multiply
  | divide
  | floorDivide
  | remainder
  | power
  | matrixMultiply
  | shiftLeft
  | shiftRight
  | bitAnd
  | bitOr
  | bitXor
deriving DecidableEq

def Operation.all : List Operation :=
  [.add, .subtract, .multiply, .divide, .floorDivide, .remainder, .power, .matrixMultiply,
    .shiftLeft, .shiftRight, .bitAnd, .bitOr, .bitXor]

def Operation.sign : Operation → String
  | .add => "+"
  | .subtract => "-"
  | .multiply => "*"
  | .divide => "/"
  | .floorDivide => "//"
  | .remainder => "%"
  | .power => "**"
  | .matrixMultiply => "@"
  | .shiftLeft => "<<"
  | .shiftRight => ">>"
  | .bitAnd => "&"
  | .bitOr => "|"
  | .bitXor => "^"

def Operation.complaintSign (op : Operation) (inPlace : Bool) : String :=
  if inPlace then op.sign ++ "="
  else if op = .power then "** or pow()"
  else op.sign

/-- A number: whole, or floating. -/
inductive Number where
  | whole (n : Int)
  | floating (x : Binary64)

def Number.ofValue? : Value → Option Number
  | .data (.bool b) => some (.whole (if b then 1 else 0))
  | .data (.int n) => some (.whole n)
  | .data (.float x) => some (.floating x)
  | _ => none

def Number.toFloating : Number → Except Raised Binary64
  | .floating x => .ok x
  | .whole n =>
    let x := Binary64.ofInt n
    if x.isInfinite then .error (raised "OverflowError" "int too large to convert to float")
    else .ok x

def zeroDivision (message : String) : Except Raised Json :=
  .error (raised "ZeroDivisionError" message)

/-- The bits below `width` of a whole number in two's complement. -/
def bitsOf (width : Nat) (n : Int) : Nat := (n % (twoPow width : Int)).toNat

def ofBits (width : Nat) (bits : Nat) : Int :=
  if bits < twoPow (width - 1) then bits else (bits : Int) - twoPow width

/-- An operation on the bits of two whole numbers, whose sign is repeated without end. -/
def onBits (op : Nat → Nat → Nat) (m n : Int) : Int :=
  let width := max m.natAbs.log2 n.natAbs.log2 + 2
  ofBits width (op (bitsOf width m) (bitsOf width n))

def floatPower (x y : Binary64) : Except Raised Json :=
  if x.isZero && y.isNegative && !y.isNaN && !y.isZero then
    zeroDivision "0.0 cannot be raised to a negative power"
  else
    let z := Binary64.ofFloat (Float.pow x.toFloat y.toFloat)
    if z.isInfinite && !x.isInfinite && !y.isInfinite then
      .error ⟨"OverflowError", [.int 34, .str "Numerical result out of range"], []⟩
    else .ok (.float z)

/-- A whole number shifted to the left, unless that is too much for counting or for memory. -/
def shiftLeft (m : Int) (count : Nat) : Except Raised Json :=
  if m = 0 then .ok (.int 0)
  else if 30 * (twoPow 61 - 1) ≤ count then
    .error (raised "OverflowError" "too many digits in integer")
  else if twoPow 36 ≤ count then .error ⟨"MemoryError", [], []⟩
  else .ok (.int (m * twoPow count))

/-- A whole number shifted to the right. A shift beyond all bits leaves their sign. -/
def shiftRight (m : Int) (count : Nat) : Int :=
  if m.natAbs.log2 < count then (if m < 0 then -1 else 0) else m.fdiv (twoPow count)

/-- An operation on whole numbers. Only plain division and negative powers leave them. -/
def wholeOperation (op : Operation) (m n : Int) : Except Raised Json :=
  match op with
  | .add => .ok (.int (m + n))
  | .subtract => .ok (.int (m - n))
  | .multiply | .matrixMultiply => .ok (.int (m * n))
  | .divide =>
    if n = 0 then zeroDivision "division by zero"
    else
      let x := Binary64.ofRatio ((m < 0) != (n < 0)) m.natAbs n.natAbs
      if x.isInfinite then
        .error (raised "OverflowError" "integer division result too large for a float")
      else .ok (.float x)
  | .floorDivide =>
    if n = 0 then zeroDivision "integer division or modulo by zero" else .ok (.int (m.fdiv n))
  | .remainder =>
    if n = 0 then zeroDivision "integer modulo by zero" else .ok (.int (m.fmod n))
  | .power =>
    if 0 ≤ n then .ok (.int (Int.pow m n.toNat))
    else do floatPower (← (Number.whole m).toFloating) (← (Number.whole n).toFloating)
  | .shiftLeft =>
    if n < 0 then .error (valueFault "negative shift count")
    else shiftLeft m n.toNat
  | .shiftRight =>
    if n < 0 then .error (valueFault "negative shift count")
    else .ok (.int (shiftRight m n.toNat))
  | .bitAnd => .ok (.int (onBits Nat.land m n))
  | .bitOr => .ok (.int (onBits Nat.lor m n))
  | .bitXor => .ok (.int (onBits Nat.xor m n))

def signedZero (x : Binary64) : Binary64 := Binary64.ofRatio x.isNegative 0 1

/-- The whole quotient, rounded down, and the remainder with the sign of the divisor. -/
def floorDivision (x y : Binary64) : Binary64 × Binary64 :=
  let rest :=
    if x.isInfinite || x.isNaN || y.isNaN then Binary64.nan
    else if y.isInfinite then x
    else x.truncatedRemainder y
  let quotient := (x - rest) / y
  let (rest, quotient) :=
    if rest.isZero then (signedZero y, quotient)
    else if !rest.isNaN && y.isNegative != rest.isNegative then
      (rest + y, quotient - Binary64.ofInt 1)
    else (rest, quotient)
  let whole :=
    if quotient.isZero then signedZero (x / y)
    else
      let down := Binary64.ofFloat quotient.toFloat.floor
      if (quotient - down).toFloat > 0.5 then down + Binary64.ofInt 1 else down
  (whole, rest)

/-- An operation on floating numbers. Those on bits are none. -/
def floatOperation? (op : Operation) (x y : Binary64) : Option (Except Raised Json) :=
  match op with
  | .add => some (.ok (.float (x + y)))
  | .subtract => some (.ok (.float (x - y)))
  | .multiply => some (.ok (.float (x * y)))
  | .divide => some <|
    if y.isZero then zeroDivision "float division by zero" else .ok (.float (x / y))
  | .floorDivide => some <|
    if y.isZero then zeroDivision "float floor division by zero"
    else .ok (.float (floorDivision x y).1)
  | .remainder => some <|
    if y.isZero then zeroDivision "float modulo" else .ok (.float (floorDivision x y).2)
  | .power => some (floatPower x y)
  | _ => none

/-- An operation on two numbers, if it is one on numbers of their kinds. -/
def numberOperation? (op : Operation) (a b : Number) : Option (Except Raised Json) :=
  match a, b with
  | .whole m, .whole n => if op = .matrixMultiply then none else some (wholeOperation op m n)
  | a, b =>
    match a.toFloating, b.toFloating with
    | .ok x, .ok y => floatOperation? op x y
    | .error r, _ | _, .error r => some (.error r)

/-- A number with its sign kept or turned, or with all its bits turned. -/
inductive SignOperation where
  | keep
  | turn
  | turnBits
deriving DecidableEq

def SignOperation.sign : SignOperation → String
  | .keep => "+"
  | .turn => "-"
  | .turnBits => "~"

def operateSign (op : SignOperation) (a : Value) : Except Raised Json :=
  match op, Number.ofValue? a with
  | .keep, some (.whole n) => .ok (.int n)
  | .turn, some (.whole n) => .ok (.int (-n))
  | .turnBits, some (.whole n) => .ok (.int (-n - 1))
  | .keep, some (.floating x) => .ok (.float x)
  | .turn, some (.floating x) => .ok (.float x.negate)
  | _, _ =>
    let sign := op.sign
    let t := a.typeName
    .error (typeFault s!"bad operand type for unary {sign}: '{t}'")

end Script

end DocFilter
