import Runbook.Plan.File
import Runbook.Proofs.Text.Newline
import Runbook.Proofs.Text.Utf8

/-!
# How a document was saved

A text can be saved with or without the mark, and with each of the newlines that a file can have.
Whichever is taken, the file gives the plan of the text, or the error that the text has.
-/

namespace Runbook

theorem Newline.head?_write_ne_mark (newline : Newline) {s : List Char}
    (h : s.head? ≠ some Text.markChar) : (newline.write s).head? ≠ some Text.markChar := by
  cases s with
  | nil => simp [write]
  | cons c s =>
      rw [write_cons]
      by_cases hc : c = '\n'
      · cases newline <;> simp [hc, chars, Text.markChar]
      · simpa [hc] using h

namespace Text

/-- The bytes of a text that is saved with a newline, and with or without the mark. -/
def saved (newline : Newline) (marked : Bool) (text : List Char) : List UInt8 :=
  (if marked then markBytes else []) ++ encodeUtf8 (newline.write text)

theorem dropMark_saved (newline : Newline) (marked : Bool) {text : List Char}
    (unmarked : text.head? ≠ some markChar) :
    dropMark (saved newline marked text) = encodeUtf8 (newline.write text) := by
  cases marked with
  | true => exact dropMark_markBytes_append _
  | false => exact dropMark_encodeUtf8 (newline.head?_write_ne_mark unmarked)

end Text

namespace Plan

variable (disk : Disk) (home : Location) (path : Path) {place : Location} {executable : Bool}
  {text : String} (newline : Newline) (marked : Bool)

theorem documentText_of_saved (plain : '\r' ∉ text.toList)
    (unmarked : text.toList.head? ≠ some Text.markChar)
    (stat : disk.stat home path.text =
      .ok (place, .file (Text.saved newline marked text.toList) executable)) :
    documentText disk home path = .ok text := by
  rw [documentText, stat]
  simp only [Text.dropMark_saved newline marked unmarked, Text.decodeUtf8_encodeUtf8,
    Text.unifyNewlines_write newline plain, String.ofList_toList]

/-- A file gives the plan of the text that was saved in it, or the error of this text. -/
theorem ofFile_of_saved (plain : '\r' ∉ text.toList)
    (unmarked : text.toList.head? ≠ some Text.markChar)
    (stat : disk.stat home path.text =
      .ok (place, .file (Text.saved newline marked text.toList) executable)) :
    ofFile disk home path = ofText text path.text := by
  rw [ofFile, documentText_of_saved disk home path newline marked plain unmarked stat]

/-- A document with a character of two bytes in its step. -/
def greeting : String :=
  "---\ndeployDoc: true\n---\n<!-- deploy-doc run-tests -->\n\n```\necho \u00E9\n```\n"

/-- A disk on which the document was saved with the mark and with newlines of two characters. -/
def greetingDisk : Disk :=
  ⟨[(["docs"], .directory),
    (["docs", "d.md"], .file (Text.saved .both true greeting.toList) false)]⟩

/-- The step has the lines and the text that it has in the document. -/
theorem ofFile_of_saved_greeting :
    (ofFile greetingDisk ["docs"] ⟨0, ["d.md"]⟩).toOption.map (·.steps.runTests) =
      some [⟨"d.md", ⟨6, 8⟩, "echo \u00E9\n"⟩] := by
  have stat : greetingDisk.stat ["docs"] (Path.text ⟨0, ["d.md"]⟩) =
      .ok (["docs", "d.md"], .file (Text.saved .both true greeting.toList) false) := rfl
  rw [ofFile_of_saved greetingDisk ["docs"] ⟨0, ["d.md"]⟩ .both true (by decide) (by decide) stat]
  decide +kernel

end Plan

end Runbook
