import DocFilter.Text.Lines
import DocFilter.Text.Utf8

/-!
# Text read in parts

Bytes that are decoded part by part while a reader asks for characters. A fault counts its place
from the start of the bytes decoded last, and the reader has seen only what came before them. All
ends of lines are read as single line feeds.
-/

namespace DocFilter

namespace Utf8

/-- A text that is being read: the bytes left, those of a character that is not complete yet,
whether a carriage return waits for what follows it, the characters decoded but not taken, and the
sizes in bytes and in characters of the part decoded last. -/
structure Stream where
  bytes : List UInt8
  pending : List UInt8
  holdsReturn : Bool
  ready : List Char
  lastBytes : Nat
  lastChars : Nat

namespace Stream

def ofBytes (bytes : List UInt8) : Stream := ⟨bytes, [], false, [], 0, 0⟩

/-- The number of bytes in the least part. -/
def leastPart : Nat := 8192

/-- The number of characters that a reader asks for at a time. -/
def request : Nat := 4096

/-- The number of bytes to decode for a number of characters, if the bytes of a character are as
many as they were last. -/
def partSize (s : Stream) (wanted : Nat) : Nat :=
  let expected := if s.lastChars = 0 then wanted else wanted * s.lastBytes / s.lastChars
  max leastPart (max wanted expected)

/-- Bytes as characters, and the bytes at their end of a character that is not complete. -/
def decodePart (bytes : List UInt8) : Except Fault (List Char × List UInt8) :=
  match gather 0 (pieces bytes) with
  | .ok cs => .ok (cs, [])
  | .error fault =>
    if fault.reason = .unexpectedEnd then
      match gather 0 (pieces (bytes.take fault.position)) with
      | .ok cs => .ok (cs, bytes.drop fault.position)
      | .error fault => .error fault
    else .error fault

/-- The stream after one more part was decoded, or nothing at the end of the bytes. -/
def fill (s : Stream) (wanted : Nat) : Except Fault (Option Stream) := do
  let part := s.bytes.take (s.partSize wanted)
  if part.isEmpty then
    let _ ← gather 0 (pieces s.pending)
    return none
  let (cs, pending) ← decodePart (s.pending ++ part)
  let cs := if s.holdsReturn && !cs.isEmpty then '\r' :: cs else cs
  let holdsReturn := cs.getLast? = some '\r' || (s.holdsReturn && cs.isEmpty)
  let cs := unifyLineEnds (if cs.getLast? = some '\r' then cs.dropLast else cs)
  return some ⟨s.bytes.drop part.length, pending, holdsReturn, s.ready ++ cs, part.length,
    cs.length⟩

/-- Up to `wanted` characters; `fuel` bounds the number of parts. -/
def take (wanted : Nat) : Nat → Stream → Except Fault (List Char × Stream)
  | 0, s => .ok (s.ready.take wanted, { s with ready := s.ready.drop wanted })
  | fuel + 1, s => do
    if wanted ≤ s.ready.length then
      return (s.ready.take wanted, { s with ready := s.ready.drop wanted })
    else match ← s.fill (wanted - s.ready.length) with
      | some s => take wanted fuel s
      | none => return (s.ready, { s with ready := [] })

/-- The characters taken and the number of requests made before the first fault, with the fault;
`fuel` bounds the number of requests. -/
def untilFault (taken : List Char) (requests : Nat) :
    Nat → Stream → Option (List Char × Nat × Fault)
  | 0, _ => none
  | fuel + 1, s =>
    match s.take request (s.bytes.length + 1) with
    | .error fault => some (taken, requests, fault)
    | .ok (cs, s) =>
      if cs.isEmpty then none else untilFault (taken ++ cs) (requests + 1) fuel s

end Stream

/-- What is read of bytes that are no text: the characters before the first fault, the number of
requests that they answer, and the fault. -/
def readUntilFault (bytes : List UInt8) : Option (List Char × Nat × Fault) :=
  (Stream.ofBytes bytes).untilFault [] 0 (bytes.length + 1)

end Utf8

end DocFilter
