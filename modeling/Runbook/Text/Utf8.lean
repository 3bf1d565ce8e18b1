import Runbook.Number.Power

/-!
# UTF-8

Bytes are decoded strictly. A lead byte fixes the length of a sequence and the range of its second
byte, so that no character has two encodings and no surrogate has one. A bad sequence is reported
with its place, the number of its bytes, and what is wrong with it.
-/

namespace Runbook.Text

/-- What is wrong with a sequence of bytes. -/
inductive Utf8Fault where
  | start
  | continuation
  | truncated
  deriving DecidableEq, Repr

/-- A bad sequence: `length` bytes from `position` on. -/
structure Utf8Error where
  position : Nat
  length : Nat
  fault : Utf8Fault
  deriving DecidableEq, Repr

/-- The length of the sequence that a lead byte opens, with the least and the greatest second
byte. -/
def leadByte? (b : UInt8) : Option (Nat × Nat × Nat) :=
  let n := b.toNat
  if 0xC2 ≤ n ∧ n < 0xE0 then some (2, 0x80, 0xBF)
  else if n = 0xE0 then some (3, 0xA0, 0xBF)
  else if n = 0xED then some (3, 0x80, 0x9F)
  else if 0xE1 ≤ n ∧ n < 0xF0 then some (3, 0x80, 0xBF)
  else if n = 0xF0 then some (4, 0x90, 0xBF)
  else if 0xF1 ≤ n ∧ n < 0xF4 then some (4, 0x80, 0xBF)
  else if n = 0xF4 then some (4, 0x80, 0x8F)
  else none

/-- Reads the bytes behind a lead byte: the code point, or the fault and the number of bytes read
well so far. -/
def continuation (low high : Nat) (code done : Nat) :
    Nat → List UInt8 → Except (Utf8Fault × Nat) Nat
  | 0, _ => .ok code
  | _ + 1, [] => .error (.truncated, done)
  | more + 1, b :: rest =>
    if low ≤ b.toNat ∧ b.toNat ≤ high then
      continuation 0x80 0xBF (code * 64 + (b.toNat - 0x80)) (done + 1) more rest
    else .error (.continuation, done)

/-- Decodes bytes whose first one stands at `position`; `skip` bytes of a character already read
come first. -/
def decodeFrom (position skip : Nat) : List UInt8 → Except Utf8Error (List Char)
  | [] => .ok []
  | b :: rest =>
    match skip with
    | skip + 1 => decodeFrom (position + 1) skip rest
    | 0 =>
      if b.toNat < 0x80 then
        (decodeFrom (position + 1) 0 rest).map (Char.ofNat b.toNat :: ·)
      else
        match leadByte? b with
        | none => .error ⟨position, 1, .start⟩
        | some (length, low, high) =>
          match continuation low high (b.toNat % twoTo (7 - length)) 1 (length - 1) rest with
          | .error (fault, done) => .error ⟨position, done, fault⟩
          | .ok code =>
            (decodeFrom (position + 1) (length - 1) rest).map (Char.ofNat code :: ·)

/-- The text that bytes encode. -/
def decodeUtf8 (bytes : List UInt8) : Except Utf8Error (List Char) := decodeFrom 0 0 bytes

/-- The bytes that encode a text. -/
def encodeUtf8 (s : List Char) : List UInt8 := s.flatMap String.utf8EncodeChar

/-- The bytes without a mark at their start; fewer bytes than a mark that begin like one are
dropped with it. -/
def dropMark (bytes : List UInt8) : List UInt8 :=
  match bytes with
  | 0xEF :: 0xBB :: 0xBF :: rest => rest
  | [0xEF, 0xBB] | [0xEF] => []
  | other => other

end Runbook.Text
