import Runbook.Proofs.Document.Automaton
import Runbook.Proofs.Document.FrontMatter
import Runbook.Proofs.Text.Newline

/-!
# Documents with other newlines

A document without carriage returns is written with another newline. Its lines open and close the
same fences and hold the same markers, so that the automaton goes through the same modes, and the
same directives are found at the same places; only their contents are written with the newline. With
a newline of two characters the front matter stands between the same fences. The fence before it
takes the carriage return of its line, so that the front matter starts with a bare line feed.
-/

namespace Runbook

namespace Fence

variable (newline : Newline) (line : List Char)

theorem afterMargin?_write :
    afterMargin? (newline.write line) = (afterMargin? line).map newline.write := by
  have taken := newline.takeWhile_write (p := (· == ' ')) (by decide) (by decide) line
  have left := newline.dropWhile_write (p := (· == ' ')) (by decide) (by decide) line
  rw [afterMargin?, afterMargin?, taken, left]
  split <;> rfl

/-- A line starts with the same fence, and what stands behind it is written with the newline. -/
theorem split?_write :
    split? (newline.write line) =
      (split? line).map fun (fence, rest) => (fence, newline.write rest) := by
  rw [split?, split?, afterMargin?_write]
  cases afterMargin? line with
  | none => rfl
  | some s =>
      cases s with
      | nil => rfl
      | cons c rest =>
          rw [Option.map_some]
          by_cases h : c = '\n'
          · subst h
            obtain ⟨d, others, starts, first⟩ := newline.exists_chars_eq_cons
            have unmarked : FenceMark.ofChar? d = none := by
              obtain rfl | rfl := first <;> decide
            have feed : FenceMark.ofChar? '\n' = none := by decide
            rw [newline.write_feed, starts, List.cons_append]
            simp only [unmarked, feed, Option.map_none]
          · rw [newline.write_cons_of_ne h]
            simp only
            cases FenceMark.ofChar? c with
            | none => rfl
            | some mark =>
                have feed : ('\n' == mark.char) = false := by cases mark <;> decide
                have carriage : ('\r' == mark.char) = false := by cases mark <;> decide
                have taken :=
                  newline.takeWhile_write (p := (· == mark.char)) feed carriage (c :: rest)
                have left :=
                  newline.dropWhile_write (p := (· == mark.char)) feed carriage (c :: rest)
                rw [newline.write_cons_of_ne h] at taken left
                simp only [taken, left]
                split <;> rfl

theorem opening?_write : opening? (newline.write line) = opening? line := by
  rw [opening?, split?_write, Option.map_map]
  rfl

theorem closedBy_write (fence : Fence) :
    fence.closedBy (newline.write line) = fence.closedBy line := by
  rw [closedBy, closedBy, split?_write]
  cases split? line with
  | none => rfl
  | some found => simp only [Option.map_some, newline.allBlank_write]

end Fence

theorem Marker.read?_write (newline : Newline) {s line : List Char} (h : line ∈ Text.lines s) :
    read? (newline.write line) = read? line := by
  rw [read?, read?, Text.trim_write newline h]

namespace Directive

/-- The directive with its content written with a newline. -/
def write (newline : Newline) (directive : Directive) : Directive :=
  { directive with content := String.ofList (newline.write directive.content.toList) }

variable (newline : Newline)

theorem block_write (source : String) (marker : Marker) (first last : Nat)
    (body : List (List Char)) :
    block source marker first last (body.map newline.write) =
      (block source marker first last body).write newline := by
  rw [block, block, write, String.toList_ofList, newline.write_flatten]

namespace Mode

/-- The mode with the lines of its block written with a newline. -/
def write (newline : Newline) : Mode → Mode
  | .idle => .idle
  | .pending marker line => .pending marker line
  | .literal fence => .literal fence
  | .block marker fence first body => .block marker fence first (body.map newline.write)

variable (source : String) (n : Nat)

section Line

variable {line : List Char} (legible : Marker.read? (newline.write line) = Marker.read? line)
include legible

theorem opened_write : opened n (newline.write line) = (opened n line).write newline := by
  rw [opened, opened, Fence.opening?_write, legible]
  split
  · rfl
  · split <;> rfl

/-- A line leads from a mode to the next one, with each newline. -/
theorem step_write (mode : Mode) :
    (mode.write newline).step source n (newline.write line) =
      ((mode.step source n line).1.map (Directive.write newline),
        (mode.step source n line).2.write newline) := by
  have entered := opened_write newline n legible
  cases mode with
  | idle => simp [write, step, entered]
  | pending marker first =>
      simp only [write, step, newline.allBlank_write, Fence.opening?_write]
      cases Text.allBlank line with
      | true => rfl
      | false =>
          cases Fence.opening? line with
          | some fence => rfl
          | none =>
              simp only [entered]
              rfl
  | literal fence =>
      simp only [write, step, Fence.closedBy_write]
      cases fence.closedBy line <;> rfl
  | block marker fence first body =>
      simp only [write, step, Fence.closedBy_write]
      cases fence.closedBy line with
      | true => simp [block_write]
      | false => simp

end Line

theorem close_write (mode : Mode) :
    (mode.write newline).close source n = (mode.close source n).map (Directive.write newline) := by
  cases mode with
  | block marker fence first body => simp [write, close, block_write]
  | _ => rfl

/-- The directives that lines complete are the same with each newline. -/
theorem complete_write {lines : List (List Char)}
    (legible : ∀ line ∈ lines, Marker.read? (newline.write line) = Marker.read? line)
    (mode : Mode) :
    (mode.write newline).complete source n (lines.map newline.write) =
      (mode.complete source n lines).map (Directive.write newline) := by
  induction lines generalizing n mode with
  | nil => exact close_write newline source n mode
  | cons line lines ih =>
      obtain ⟨first, others⟩ := List.forall_mem_cons.mp legible
      simp only [List.map_cons, complete, step_write newline source (n + 1) first, ih _ others,
        List.map_append]

end Mode

/-- The directives of a document are the same with each newline. -/
theorem ofText_newline {s : List Char} (plain : '\r' ∉ s) (source : String) :
    ofText (String.ofList (newline.write s)) source =
      (ofText (String.ofList s) source).map (write newline) := by
  have legible : ∀ line ∈ Text.lines s, Marker.read? (newline.write line) = Marker.read? line :=
    fun _ mem => Marker.read?_write newline mem
  rw [ofText, ofText, String.toList_ofList, String.toList_ofList, Text.lines_write newline plain,
    Mode.scan_eq_complete source 0 rfl, Mode.scan_eq_complete source 0 rfl]
  exact Mode.complete_write newline source 0 legible .idle

end Directive

namespace Newline

/-- The text written with the newline behind its first character. -/
def writeTail (newline : Newline) : List Char → List Char
  | [] => []
  | c :: s => c :: newline.write s

/-- A character that is in no newline was written from itself. -/
theorem exists_of_write_eq_cons {newline : Newline} {s t : List Char} {c : Char}
    (h : newline.write s = c :: t) (feed : c ≠ '\n') (carriage : c ≠ '\r') :
    ∃ rest, s = c :: rest ∧ t = newline.write rest := by
  cases s with
  | nil => cases h
  | cons d rest =>
      by_cases same : d = '\n'
      · subst same
        obtain ⟨e, others, starts, first⟩ := newline.exists_chars_eq_cons
        rw [newline.write_feed, starts, List.cons_append] at h
        obtain ⟨rfl, -⟩ := List.cons.inj h
        exact (first.elim feed carriage).elim
      · rw [newline.write_cons_of_ne same] at h
        obtain ⟨rfl, rfl⟩ := List.cons.inj h
        exact ⟨rest, rfl, rfl⟩

end Newline

namespace FrontMatter

open Newline (both)

theorem afterHyphens?_write (newline : Newline) (s : List Char) :
    afterHyphens? (newline.write s) = (afterHyphens? s).map newline.write := by
  have blanks := newline.dropWhile_write (p := fun c => c == ' ' || c == '\t') (by decide)
    (by decide)
  by_cases starts : ∃ rest, s = '-' :: '-' :: '-' :: rest
  · obtain ⟨rest, rfl⟩ := starts
    have hyphen : ('-' : Char) ≠ '\n' := by decide
    rw [newline.write_cons_of_ne hyphen, newline.write_cons_of_ne hyphen,
      newline.write_cons_of_ne hyphen, afterHyphens?_hyphens, afterHyphens?_hyphens, blanks]
    rfl
  · have unread : afterHyphens? s = none := by
      cases left : afterHyphens? s with
      | none => rfl
      | some ending =>
          obtain ⟨margin, whole, -⟩ := afterHyphens?_eq_some_iff.mp left
          exact absurd ⟨_, whole⟩ starts
    rw [unread]
    cases left : afterHyphens? (newline.write s) with
    | none => rfl
    | some ending =>
        obtain ⟨margin, whole, -⟩ := afterHyphens?_eq_some_iff.mp left
        obtain ⟨s, rfl, first⟩ := Newline.exists_of_write_eq_cons whole (by decide) (by decide)
        obtain ⟨s, rfl, second⟩ :=
          Newline.exists_of_write_eq_cons first.symm (by decide) (by decide)
        obtain ⟨s, rfl, -⟩ := Newline.exists_of_write_eq_cons second.symm (by decide) (by decide)
        exact absurd ⟨s, rfl⟩ starts

/-- What follows a fence is the end of the text, and starts with a line feed unless it is empty. -/
theorem suffix_of_afterFence? {s tail : List Char} (h : afterFence? s = some tail) :
    tail <:+ s ∧ tail.head?.all (· == '\n') = true := by
  rw [afterFence?_eq] at h
  obtain ⟨ending, left, found⟩ := Option.bind_eq_some_iff.mp h
  obtain ⟨margin, whole, -⟩ := afterHyphens?_eq_some_iff.mp left
  have inside : ending <:+ s := ⟨'-' :: '-' :: '-' :: margin, by simp [whole]⟩
  simp only [Option.ite_none_right_eq_some, Option.some.injEq] at found
  obtain ⟨start, rfl⟩ := found
  refine ⟨?_, start⟩
  split
  · exact (List.tail_suffix ending).trans inside
  · exact inside

theorem splitAtFence_cons_of_ne {c : Char} (other : c ≠ '-') (lineStart : Bool) (s : List Char) :
    splitAtFence lineStart (c :: s) =
      (splitAtFence (c == '\n') s).map fun (before, after) => (c :: before, after) := by
  have unfenced : afterFence? (c :: s) = none := by
    unfold afterFence?
    split
    · next found => exact absurd (List.cons.inj found).1 other
    · rfl
  rw [splitAtFence, unfenced, ite_self]

section Both

variable {s : List Char} (plain : '\r' ∉ s)
include plain

/-- A fence takes the carriage return of its line. -/
theorem afterFence?_write : afterFence? (both.write s) = (afterFence? s).map both.writeTail := by
  rw [afterFence?_eq, afterFence?_eq, afterHyphens?_write]
  cases left : afterHyphens? s with
  | none => rfl
  | some ending =>
      obtain ⟨margin, rfl, -⟩ := afterHyphens?_eq_some_iff.mp left
      rw [Option.map_some, Option.bind_some, Option.bind_some]
      cases ending with
      | nil => rfl
      | cons c rest =>
          have returned : c ≠ '\r' := by
            rintro rfl
            simp at plain
          by_cases feed : c = '\n'
          · subst feed
            simp [Newline.write_feed, Newline.chars, Newline.writeTail]
          · simp [both.write_cons_of_ne feed, feed, returned]

theorem splitAtFence_write (lineStart : Bool) :
    splitAtFence lineStart (both.write s) =
      (splitAtFence lineStart s).map fun (before, after) =>
        (both.write before, both.writeTail after) := by
  induction s generalizing lineStart with
  | nil => rfl
  | cons c s ih =>
      have rest (lineStart : Bool) := ih (fun mem => plain (List.mem_cons_of_mem c mem)) lineStart
      by_cases feed : c = '\n'
      · subst feed
        have carriage : both.write ('\n' :: s) = '\r' :: '\n' :: both.write s := rfl
        rw [carriage, splitAtFence_cons_of_ne (by decide), splitAtFence_cons_of_ne (by decide),
          splitAtFence_cons_of_ne (by decide), rest, Option.map_map, Option.map_map, Option.map_map]
        rfl
      · have fenced := afterFence?_write plain
        rw [both.write_cons_of_ne feed] at fenced ⊢
        rw [splitAtFence, splitAtFence, rest]
        cases lineStart with
        | false =>
            simp only [Bool.false_eq_true, if_false, Option.map_map, Function.comp_def,
              both.write_cons_of_ne feed]
        | true =>
            simp only [if_true, fenced]
            cases afterFence? (c :: s) with
            | some tail => rfl
            | none =>
                simp only [Option.map_none, Option.map_map, Function.comp_def,
                  both.write_cons_of_ne feed]

end Both

/-- So does what follows the first fence of a text. -/
theorem suffix_of_splitAtFence {lineStart : Bool} {s before tail : List Char}
    (h : splitAtFence lineStart s = some (before, tail)) :
    tail <:+ s ∧ tail.head?.all (· == '\n') = true := by
  induction s generalizing lineStart before with
  | nil => cases h
  | cons c s ih =>
      rw [splitAtFence] at h
      split at h
      · next found =>
        obtain ⟨rfl, rfl⟩ := Prod.mk.inj (Option.some.inj h)
        split at found
        · exact suffix_of_afterFence? found
        · cases found
      · obtain ⟨part, later, same⟩ := Option.map_eq_some_iff.mp h
        obtain ⟨rfl, rfl⟩ := Prod.mk.inj same
        obtain ⟨ends, start⟩ := ih later
        exact ⟨ends.trans (List.suffix_cons c s), start⟩

/-- The front matter starts with the line feed of the first fence. -/
theorem exists_of_region? {s region : List Char} (h : region? s = some region) :
    ∃ body, region = '\n' :: body := by
  rw [region?] at h
  split at h
  · cases h
  · next before tail first =>
    obtain ⟨⟨between, after⟩, second, rfl⟩ := Option.map_eq_some_iff.mp h
    cases tail with
    | nil => cases second
    | cons c rest =>
        obtain rfl : c = '\n' := by simpa using (suffix_of_splitAtFence first).2
        rw [splitAtFence_feed] at second
        obtain ⟨part, -, same⟩ := Option.map_eq_some_iff.mp second
        exact ⟨part.1, (Prod.mk.inj same).1.symm⟩

/-- The front matter is written with the newline, but for this line feed. -/
theorem region?_write {s : List Char} (plain : '\r' ∉ s) :
    region? (both.write s) = (region? s).map both.writeTail := by
  rw [region?, region?, splitAtFence_write plain]
  cases first : splitAtFence true s with
  | none => rfl
  | some parts =>
      obtain ⟨before, tail⟩ := parts
      obtain ⟨⟨front, rfl⟩, start⟩ := suffix_of_splitAtFence first
      simp only [Option.map_some]
      cases tail with
      | nil => rfl
      | cons c rest =>
          obtain rfl : c = '\n' := by simpa using start
          have inside : '\r' ∉ rest := by
            intro mem
            exact plain (List.mem_append_right front (List.mem_cons_of_mem _ mem))
          rw [Newline.writeTail, splitAtFence_feed, splitAtFence_feed, splitAtFence_write inside,
            Option.map_map, Option.map_map, Option.map_map, Option.map_map]
          rfl

end FrontMatter

namespace Newline

open FrontMatter (region? entries? mappingEntries?)

/-- Whether its lines end in a line feed or in a carriage return and a line feed, a document has the
same directives at the same places, with contents that differ in these ends alone. It has a front
matter in both forms or in none, which starts with a line feed and else differs in the ends
alone. -/
theorem directives_and_frontMatter {text : String} (plain : '\r' ∉ text.toList) (source : String) :
    let written := String.ofList (both.write text.toList)
    Directive.ofText written source = (Directive.ofText text source).map (Directive.write both) ∧
      (region? text.toList = none → region? written.toList = none) ∧
      ∀ region, region? text.toList = some region →
        ∃ body, region = '\n' :: body ∧
          region? written.toList = some ('\n' :: both.write body) ∧
            entries? written.toList =
              (Yaml.document? false ('\n' :: both.write body)).bind mappingEntries? := by
  intro written
  have read : region? written.toList = (region? text.toList).map both.writeTail := by
    rw [String.toList_ofList]
    exact FrontMatter.region?_write plain
  refine ⟨?_, ?_, ?_⟩
  · have found := Directive.ofText_newline both plain source
    rwa [String.ofList_toList] at found
  · intro none
    rw [read, none]
    rfl
  · intro region found
    obtain ⟨body, rfl⟩ := FrontMatter.exists_of_region? found
    have region_written : region? written.toList = some ('\n' :: both.write body) := by
      rw [read, found]
      rfl
    refine ⟨body, rfl, region_written, ?_⟩
    rw [entries?, region_written]
    rfl

/-- A document with a front matter, a block that is closed, and one that is not. -/
def mixedDocument : String :=
  "---\ntitle: a\n---\n<!-- deploy-doc run-tests -->\n\n```sh\nmake\n\n```\n" ++
    "<!-- deploy-doc cleanup -->\n~~~\nmake clean"

/-- The blank line and the unclosed block are read with the other newline as well. -/
theorem directives_and_frontMatter_mixedDocument :
    let written := String.ofList (both.write mixedDocument.toList)
    Directive.ofText written "mixed.md" =
        [⟨"run-tests", [], "mixed.md", ⟨6, 9⟩, "make\r\n\r\n"⟩,
          ⟨"cleanup", [], "mixed.md", ⟨11, 12⟩, "make clean"⟩] ∧
      region? written.toList = some "\ntitle: a\r\n".toList := by
  intro written
  have plain : '\r' ∉ mixedDocument.toList := by decide
  obtain ⟨found, -, read⟩ := directives_and_frontMatter plain "mixed.md"
  have parsed : Directive.ofText mixedDocument "mixed.md" =
      [⟨"run-tests", [], "mixed.md", ⟨6, 9⟩, "make\n\n"⟩,
        ⟨"cleanup", [], "mixed.md", ⟨11, 12⟩, "make clean"⟩] := by decide +kernel
  obtain ⟨body, same, region, -⟩ := read "\ntitle: a\n".toList (by decide +kernel)
  obtain rfl : "title: a\n".toList = body := (List.cons.inj same).2
  constructor
  · rw [found, parsed]
    decide
  · exact region

end Newline

end Runbook
