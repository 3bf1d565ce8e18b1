import Runbook.Text.Utf8

/-!
# Octets

Some texts are made of bytes and need not be well encoded. They are kept as strings of octets, in
which each character is below 256 and stands for one byte.
-/

namespace Runbook.Text

/-- The octets of some bytes. -/
def ofBytes (bytes : List UInt8) : String :=
  String.ofList (bytes.map fun b => Char.ofNat b.toNat)

/-- The bytes that octets stand for. -/
def toBytes (octets : String) : List UInt8 := octets.toList.map fun c => c.toNat.toUInt8

/-- The octets that encode a text. -/
def encode (text : String) : String := ofBytes (encodeUtf8 text.toList)

/-- A text in which the characters beyond octets are encoded. -/
def withOctets (text : String) : String :=
  String.ofList (text.toList.flatMap fun c =>
    if c.toNat < 256 then [c] else (encode c.toString).toList)

/-- The mark that stands for a sequence of bytes that is no character. -/
def replacementMark : Char := '\uFFFD'

/-- Decodes bytes; each bad sequence becomes one mark. Every round takes at least one byte, so that
their number is fuel enough. -/
def decodeLossily (fuel : Nat) (bytes : List UInt8) : List Char :=
  match fuel with
  | 0 => []
  | fuel + 1 =>
    match decodeUtf8 bytes with
    | .ok text => text
    | .error fault =>
      let before := (decodeUtf8 (bytes.take fault.position)).toOption.getD []
      let behind := bytes.drop (fault.position + max 1 fault.length)
      before ++ replacementMark :: decodeLossily fuel behind

/-- The text that octets encode; each bad sequence becomes one mark. -/
def decode (octets : String) : String :=
  let bytes := toBytes octets
  String.ofList (decodeLossily (bytes.length + 1) bytes)

end Runbook.Text
