/-!
# UTF-8

Text as bytes and back. Decoding feeds one byte at a time to a machine that stands either between
characters or inside a sequence of bytes; it gives a list of characters and faults, each fault
covering the bytes that were taken back when the sequence broke off.
-/

namespace DocFilter

namespace Utf8

def encodeChar (c : Char) : List UInt8 :=
  let n := c.toNat
  if n < 0x80 then [UInt8.ofNat n]
  else if n < 0x800 then [UInt8.ofNat (0xC0 + n / 64), UInt8.ofNat (0x80 + n % 64)]
  else if n < 0x10000 then
    [UInt8.ofNat (0xE0 + n / 4096), UInt8.ofNat (0x80 + n / 64 % 64), UInt8.ofNat (0x80 + n % 64)]
  else
    [UInt8.ofNat (0xF0 + n / 262144), UInt8.ofNat (0x80 + n / 4096 % 64),
      UInt8.ofNat (0x80 + n / 64 % 64), UInt8.ofNat (0x80 + n % 64)]

def encode (s : String) : List UInt8 := s.toList.flatMap encodeChar

/-- Why bytes are no text. -/
inductive Reason where
  | invalidStart
  | invalidContinuation
  | unexpectedEnd
deriving DecidableEq

/-- What a stretch of bytes stands for. -/
inductive Piece where
  | char (c : Char)
  | broken (count : Nat) (first : UInt8) (reason : Reason)

/-- A sequence under way: its first byte, the bytes taken, the bytes owed, the bits so far, and the
range of the next byte. -/
structure Sequence where
  first : UInt8
  taken : Nat
  owed : Nat
  value : Nat
  low : Nat
  high : Nat

/-- What a byte between characters starts. -/
def start (b : UInt8) : List Piece × Option Sequence :=
  let n := b.toNat
  if n < 0x80 then ([.char (Char.ofNat n)], none)
  else if n < 0xC2 then ([.broken 1 b .invalidStart], none)
  else if n < 0xE0 then ([], some ⟨b, 1, 1, n - 0xC0, 0x80, 0xBF⟩)
  else if n = 0xE0 then ([], some ⟨b, 1, 2, 0, 0xA0, 0xBF⟩)
  else if n = 0xED then ([], some ⟨b, 1, 2, 13, 0x80, 0x9F⟩)
  else if n < 0xF0 then ([], some ⟨b, 1, 2, n - 0xE0, 0x80, 0xBF⟩)
  else if n = 0xF0 then ([], some ⟨b, 1, 3, 0, 0x90, 0xBF⟩)
  else if n < 0xF4 then ([], some ⟨b, 1, 3, n - 0xF0, 0x80, 0xBF⟩)
  else if n = 0xF4 then ([], some ⟨b, 1, 3, 4, 0x80, 0x8F⟩)
  else ([.broken 1 b .invalidStart], none)

/-- One byte: the pieces it completes, and the sequence under way after it. -/
def feed : Option Sequence → UInt8 → List Piece × Option Sequence
  | none, b => start b
  | some s, b =>
    let n := b.toNat
    if s.low ≤ n ∧ n ≤ s.high then
      let value := s.value * 64 + (n - 0x80)
      if s.owed ≤ 1 then ([.char (Char.ofNat value)], none)
      else ([], some ⟨s.first, s.taken + 1, s.owed - 1, value, 0x80, 0xBF⟩)
    else
      let (pieces, next) := start b
      (.broken s.taken s.first .invalidContinuation :: pieces, next)

/-- The pieces of a list of bytes, after a sequence under way. -/
def piecesFrom : Option Sequence → List UInt8 → List Piece
  | none, [] => []
  | some s, [] => [.broken s.taken s.first .unexpectedEnd]
  | state, b :: bs =>
    let (pieces, next) := feed state b
    pieces ++ piecesFrom next bs

def pieces (bs : List UInt8) : List Piece := piecesFrom none bs

/-- The first fault of a list of bytes: its place and length, its first byte, and its reason. -/
structure Fault where
  position : Nat
  count : Nat
  first : UInt8
  reason : Reason

/-- The characters of pieces that start `position` bytes into the whole, or the first fault. -/
def gather : Nat → List Piece → Except Fault (List Char)
  | _, [] => .ok []
  | position, .char c :: rest => (gather (position + (encodeChar c).length) rest).map (c :: ·)
  | position, .broken count first reason :: _ => .error ⟨position, count, first, reason⟩

def decode (bs : List UInt8) : Except Fault String := (gather 0 (pieces bs)).map String.ofList

/-- The text of a list of bytes, with a replacement character for every fault. -/
def decodeLossy (bs : List UInt8) : String :=
  String.ofList ((pieces bs).map fun
    | .char c => c
    | .broken .. => '\uFFFD')

def Reason.text : Reason → String
  | .invalidStart => "invalid start byte"
  | .invalidContinuation => "invalid continuation byte"
  | .unexpectedEnd => "unexpected end of data"

def Fault.message (f : Fault) : String :=
  if f.count = 1 then
    let byte := String.ofList (Nat.toDigits 16 f.first.toNat)
    s!"'utf-8' codec can't decode byte 0x{byte} in position {f.position}: {f.reason.text}"
  else
    let last := f.position + f.count - 1
    s!"'utf-8' codec can't decode bytes in position {f.position}-{last}: {f.reason.text}"

end Utf8

end DocFilter
