import Runbook.Data.Value
import Runbook.Schema.Problem
import Runbook.Text.Utf8

/-!
# Metadata

The metadata of a plan is a mapping from texts to decoded values. Bytes that encode a text serve
as that text; every other key is a problem of its own.
-/

namespace Runbook

/-- The decoded front matter of a document; the keys are texts. -/
abbrev Metadata := List (Scalar × Value)

namespace Metadata

/-- One byte of a byte text between single quotes. -/
def byteChars (b : UInt8) : List Char :=
  let n := b.toNat
  if n = 0x09 then ['\\', 't']
  else if n = 0x0A then ['\\', 'n']
  else if n = 0x0D then ['\\', 'r']
  else if n = 0x5C then ['\\', '\\']
  else if 0x20 ≤ n ∧ n ≤ 0x7E then [Char.ofNat n]
  else '\\' :: 'x' :: padLeft 2 '0' (Nat.toDigits 16 n)

/-- The text of bytes in messages. -/
def bytesText (bytes : List UInt8) : String :=
  let hasSingle := bytes.contains 0x27
  let quote : Char := if hasSingle && !bytes.contains 0x22 then '\x22' else '\x27'
  let one (b : UInt8) : List Char :=
    if b = 0x27 && quote == '\x27' then ['\\', '\x27'] else byteChars b
  String.ofList ('b' :: quote :: bytes.flatMap one ++ [quote])

/-- The text of a key in the place of a problem. -/
def keyText : Scalar → String
  | .null => "None"
  | .bool b => if b then "1" else "0"
  | .int i => decimalText i
  | .float x => x.text
  | .str s => s
  | .halved codes => String.ofList (codes.map Char.ofNat)
  | .bytes bytes => bytesText bytes
  | .date d => d.text
  | .time t => t.iso
  | .moment m => m.text

/-- The text that a key serves as. -/
def textKey (key : Scalar) : Except Mismatch Scalar :=
  match key with
  | .str _ | .halved _ => .ok key
  | .bytes bytes =>
    match Text.decodeUtf8 bytes with
    | .ok chars => .ok (.str (String.ofList chars))
    | .error _ => .error .stringUnicode
  | _ => .error .stringType

/-- The problem of a key that cannot serve as a text. -/
def keyProblem? (key : Scalar) : Option Problem :=
  match textKey key with
  | .ok _ => none
  | .error mismatch => some ⟨[keyText key, Problem.keyStep], mismatch⟩

/-- The metadata that entries hold, or the problems of their keys. -/
def ofEntries (entries : List (Scalar × Value)) : Except (List Problem) Metadata :=
  match entries.filterMap fun entry => keyProblem? entry.1 with
  | [] =>
    .ok (entries.foldl
      (fun found entry =>
        match textKey entry.1 with
        | .ok key => Value.setEntry key entry.2 found
        | .error _ => found) [])
  | problems => .error problems

end Metadata

end Runbook
