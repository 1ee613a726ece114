/-!
# Reading UTF-8

Bytes are read as UTF-8 (RFC 3629): no overlong forms, no surrogates, nothing above U+10FFFF.

* `Utf8Fault`: why the bytes are no UTF-8, with the offending bytes.
* `decodeUtf8`: the text, or the first fault.
-/

namespace AskTable.Text

/-- The three ways in which bytes fail to be UTF-8. -/
inductive Utf8Cause where
  /-- No character starts with this byte. -/
  | badStart
  /-- A character breaks off at a byte that does not continue it. -/
  | badContinuation
  /-- The bytes end within a character. -/
  | truncated
  deriving DecidableEq, Repr

/-- The first fault: the cause, the first offending byte, its position and how many offend. -/
structure Utf8Fault where
  cause : Utf8Cause
  byte : UInt8
  position : Nat
  length : Nat
  deriving DecidableEq, Repr

/-- The continuation bytes, and the narrower range that may follow some first bytes. -/
def secondRange (first : Nat) : Nat × Nat :=
  if first == 0xE0 then (0xA0, 0xBF)
  else if first == 0xED then (0x80, 0x9F)
  else if first == 0xF0 then (0x90, 0xBF)
  else if first == 0xF4 then (0x80, 0x8F)
  else (0x80, 0xBF)

/-- How many bytes follow a first byte; `none` when no character starts with it. -/
def tailLength? (first : Nat) : Option Nat :=
  if first < 0x80 then some 0
  else if first < 0xC2 then none
  else if first < 0xE0 then some 1
  else if first < 0xF0 then some 2
  else if first < 0xF5 then some 3
  else none

/-- Reads `need` continuation bytes, the first of them within `range`. Gives the value and the
number of bytes read, with the cause if they break off. -/
def readTail (range : Nat × Nat) (value seen : Nat) :
    (need : Nat) → List UInt8 → Except (Utf8Cause × Nat) Nat
  | 0, _ => .ok value
  | _ + 1, [] => .error (.truncated, seen)
  | need + 1, b :: bytes =>
    if range.1 ≤ b.toNat && b.toNat ≤ range.2 then
      readTail (0x80, 0xBF) (value * 64 + (b.toNat - 0x80)) (seen + 1) need bytes
    else .error (.badContinuation, seen)

/-- The payload bits of a first byte that `need` bytes follow. -/
def firstBits (need first : Nat) : Nat :=
  match need with
  | 0 => first
  | 1 => first - 0xC0
  | 2 => first - 0xE0
  | _ => first - 0xF0

/-- Reads characters from `position` on; `skip` bytes still belong to the last character. -/
def decodeAfter (done : List Char) (position : Nat) :
    (skip : Nat) → List UInt8 → Except Utf8Fault (List Char)
  | _, [] => .ok done.reverse
  | skip + 1, _ :: bytes => decodeAfter done (position + 1) skip bytes
  | 0, b :: bytes =>
    match tailLength? b.toNat with
    | none => .error ⟨.badStart, b, position, 1⟩
    | some need =>
      match readTail (secondRange b.toNat) (firstBits need b.toNat) 1 need bytes with
      | .ok value => decodeAfter (Char.ofNat value :: done) (position + 1) need bytes
      | .error (cause, seen) => .error ⟨cause, b, position, seen⟩

/-- The text that the bytes write, or the first fault. -/
def decodeUtf8 (bytes : List UInt8) : Except Utf8Fault (List Char) := decodeAfter [] 0 0 bytes

/-- The fault as it is met when the text is read in pieces: an unfinished last character is a piece
of its own. -/
def Utf8Fault.ofPieces (f : Utf8Fault) : Utf8Fault :=
  if f.cause == .truncated then { f with position := 0 } else f

/-- What a fault says. -/
def Utf8Fault.message (f : Utf8Fault) (byteText : String) : String :=
  let reason := match f.cause with
    | .badStart => "invalid start byte"
    | .badContinuation => "invalid continuation byte"
    | .truncated => "unexpected end of data"
  let place := if f.length == 1 then s!"byte 0x{byteText} in position {f.position}"
    else s!"bytes in position {f.position}-{f.position + f.length - 1}"
  s!"'utf-8' codec can't decode {place}: {reason}"

end AskTable.Text
