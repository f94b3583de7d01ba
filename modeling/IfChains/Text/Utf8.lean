/-
**Bytes that spell text.**

A character is a lead byte and the bytes that continue it. The lead byte says how many those are and
between which bounds the first of them lies, so that no character has two spellings and halves of
surrogate pairs have none. A fault is found at the first byte that cannot go on with the text.
-/

import IfChains.Text.CodePoints

namespace IfChains

/-- A sequence of bytes. -/
abbrev Bytes := List UInt8

namespace Utf8

/-- Why bytes spell no text. -/
inductive Reason
  | start | continuation | truncated
deriving DecidableEq, Repr

/-- Some bytes that spell no text: the places of the first one and behind the last one, and the
first one itself. -/
structure Fault where
  reason : Reason
  first : Nat
  past : Nat
  byte : Nat
deriving DecidableEq, Repr

namespace Fault

/-- The wording of a reason. -/
def reasonText : Reason → String
  | .start => "invalid start byte"
  | .continuation => "invalid continuation byte"
  | .truncated => "unexpected end of data"

/-- The wording of a fault. -/
def message (fault : Fault) : String :=
  let digits := Nat.toDigits 16 fault.byte
  let byte := String.ofList (List.replicate (2 - digits.length) '0' ++ digits)
  let where_ :=
    if fault.past = fault.first + 1 then
      "byte 0x" ++ byte ++ " in position " ++ toString fault.first
    else "bytes in position " ++ toString fault.first ++ "-" ++ toString (fault.past - 1)
  "'utf-8' codec can't decode " ++ where_ ++ ": " ++ reasonText fault.reason

end Fault

/-- Halves of surrogate pairs, which no bytes spell: the places of the first and of the last one,
and the first one itself. -/
structure Halves where
  first : Nat
  last : Nat
  point : Nat
deriving DecidableEq, Repr

namespace Halves

/-- The wording of a fault. -/
def message (halves : Halves) : String :=
  "'utf-8' codec can't encode " ++
    (if halves.first = halves.last then
      "character '\\u" ++ String.ofList (Nat.toDigits 16 halves.point) ++ "' in position " ++
        toString halves.first
    else "characters in position " ++ toString halves.first ++ "-" ++ toString halves.last) ++
    ": surrogates not allowed"

end Halves

/-- Whether a code point stands in a path for a byte that is no text. -/
def isStrayByte (point : Nat) : Bool :=
  0xDC80 ≤ point && point ≤ 0xDCFF

/-- The first halves of surrogate pairs in a path from a place on. Those that begin a run of halves
and stand for bytes do not count. -/
def unspelledFrom (place : Nat) : CodePoints → Option Halves
  | [] => none
  | point :: rest =>
    if !CodePoints.isHalf point || isStrayByte point then unspelledFrom (place + 1) rest
    else some ⟨place, place + (rest.takeWhile CodePoints.isHalf).length, point⟩

/-- The first halves of surrogate pairs in a path. -/
def unspelled? (path : CodePoints) : Option Halves :=
  unspelledFrom 0 path

/-- A character that has begun: where and with which byte, the value so far, the number of bytes it
lacks, and the bounds of the next one. -/
structure Pending where
  first : Nat
  lead : Nat
  value : Nat
  lacks : Nat
  low : Nat
  high : Nat
deriving DecidableEq, Repr

/-- The character that a lead byte begins; nothing if no character begins so. -/
def begin? (first lead : Nat) : Option Pending :=
  if lead < 0xC2 then none
  else if lead < 0xE0 then some ⟨first, lead, lead - 0xC0, 1, 0x80, 0xBF⟩
  else if lead < 0xF0 then
    some ⟨first, lead, lead - 0xE0, 2, if lead = 0xE0 then 0xA0 else 0x80,
      if lead = 0xED then 0x9F else 0xBF⟩
  else if lead < 0xF5 then
    some ⟨first, lead, lead - 0xF0, 3, if lead = 0xF0 then 0x90 else 0x80,
      if lead = 0xF4 then 0x8F else 0xBF⟩
  else none

/-- The characters that bytes spell from a place on, where a character may have begun. -/
def decodeFrom (place : Nat) : Option Pending → Bytes → Except Fault (List Char)
  | none, [] => .ok []
  | some pending, [] => .error ⟨.truncated, pending.first, place, pending.lead⟩
  | none, byte :: rest =>
    if byte.toNat < 0x80 then
      (decodeFrom (place + 1) none rest).map (Char.ofNat byte.toNat :: ·)
    else match begin? place byte.toNat with
      | some pending => decodeFrom (place + 1) (some pending) rest
      | none => .error ⟨.start, place, place + 1, byte.toNat⟩
  | some pending, byte :: rest =>
    let next := byte.toNat
    if next < pending.low || pending.high < next then
      .error ⟨.continuation, pending.first, place, pending.lead⟩
    else
      let value := 64 * pending.value + (next - 0x80)
      if pending.lacks = 1 then (decodeFrom (place + 1) none rest).map (Char.ofNat value :: ·)
      else
        let pending :=
          { pending with value := value, lacks := pending.lacks - 1, low := 0x80, high := 0xBF }
        decodeFrom (place + 1) (some pending) rest

/-- The text that bytes spell. -/
def decode (bytes : Bytes) : Except Fault String :=
  (decodeFrom 0 none bytes).map String.ofList

/-- The bytes that spell a text. -/
def encode (text : String) : Bytes :=
  text.toUTF8.toList

example : (decode [0x78, 0x3d, 0x31, 0xff]).toOption = none := by decide +kernel
example : (decode [0xC3, 0xA9]).toOption = some "é" := by decide +kernel

end Utf8

end IfChains
