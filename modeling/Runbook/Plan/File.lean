import Runbook.Disk.Tree
import Runbook.Plan.Source
import Runbook.Text.Line

/-!
# From a file to its plan

A document is a file in UTF-8; a mark at its start is dropped, and every newline is read as a line
feed.
-/

namespace Runbook

namespace Text

/-- A byte in base sixteen. -/
def byteHex (b : UInt8) : String :=
  "0x" ++ String.ofList (padLeft 2 '0' (Nat.toDigits 16 b.toNat))

/-- The words for what is wrong with a sequence of bytes. -/
def Utf8Fault.text : Utf8Fault → String
  | start => "invalid start byte"
  | continuation => "invalid continuation byte"
  | truncated => "unexpected end of data"

/-- The wording of a bad sequence in bytes. -/
def Utf8Error.message (error : Utf8Error) (bytes : List UInt8) : String :=
  let first := decimalText error.position
  let place :=
    if error.length = 1 then
      "byte " ++ byteHex (bytes.getD error.position 0) ++ " in position " ++ first
    else
      "bytes in position " ++ first ++ "-" ++ decimalText (error.position + error.length - 1)
  "'utf-8' codec can't decode " ++ place ++ ": " ++ error.fault.text

end Text

namespace Plan

/-- The text of a document in a file. -/
def documentText (disk : Disk) (directory : Location) (path : Path) : Except PlanError String :=
  match disk.stat directory path.text with
  | .error error =>
    .error (if error.meansAbsent then .notFound path.text else .badPath path.text)
  | .ok (_, .directory) => .error (.notFound path.text)
  | .ok (_, .file bytes _) =>
    let content := Text.dropMark bytes
    match Text.decodeUtf8 content with
    | .ok chars => .ok (String.ofList (Text.unifyNewlines chars))
    | .error error => .error (.unreadable path.text (error.message content))

/-- The plan of a document in a file. -/
def ofFile (disk : Disk) (directory : Location) (path : Path) : Except PlanError Plan :=
  match documentText disk directory path with
  | .error error => .error error
  | .ok text => ofText text path.text

end Plan

end Runbook
